import EngineGateway.CommandLine.Launch
import EngineGateway.Proofs.Settings.Keys
import EngineGateway.Proofs.Text.Utf8
import EngineGateway.Proofs.Toml.Names
import Mathlib

/-!
# Layers of settings

Each source of settings is a layer: it has contents for some keys and is silent about the
others.  Layers lie over one another, and what is held under a key comes from the uppermost
layer that is not silent about it.  A file or an environment that is accepted is such a layer,
and so is the command line.

An environment that is refused is refused for the first variable whose text stands for nothing.
What is overridden then are the settings of the variables before it, and no others.
-/

namespace EngineGateway.Settings

open Engine

/-- One layer over another. -/
def Layer.above (upper lower : Layer) : Layer :=
  fun key => (upper key).or (lower key)

theorem Layer.above_assoc (upper middle lower : Layer) :
    (upper.above middle).above lower = upper.above (middle.above lower) :=
  funext fun _ => Option.or_assoc

theorem Layer.silent_beyond (layer : Layer) : ∀ key ∉ Key.all, layer key = none :=
  fun key missing => absurd key.mem_all missing

theorem rel_unique {α β : Type} {related : α → β → Prop}
    (unique : ∀ {one two three}, related one two → related one three → two = three)
    {one : Option α} {two three : Option β} (here : Option.Rel related one two)
    (there : Option.Rel related one three) : two = three := by
  cases here with
  | none => cases there; rfl
  | some holds =>
      cases there with
      | some again => rw [unique holds again]

theorem rel_or {α β : Type} {related : α → β → Prop} {one two : Option α} {three four : Option β}
    (upper : Option.Rel related one three) (lower : Option.Rel related two four) :
    Option.Rel related (one.or two) (three.or four) := by
  cases upper with
  | none => exact lower
  | some holds => exact .some holds

/-- A layer says what a source gives under some keys, and is silent about the others. -/
structure Sets {Given : Type} (means : (key : Key) → Given → key.Content → Prop)
    (found : Key → Option Given) (keys : List Key) (layer : Layer) : Prop where
  given : ∀ key ∈ keys, Option.Rel (means key) (found key) (layer key)
  silent : ∀ key ∉ keys, layer key = none

section Cover

variable {settings after : Settings} {layer : Layer} {key : Key} {keys : List Key}

/-- Settings with the content that a layer has for one key. -/
def place (layer : Layer) (settings : Settings) (key : Key) : Settings :=
  (layer key).elim settings (settings.assign key)

/-- Settings with the contents that a layer has for some keys. -/
def cover (layer : Layer) (settings : Settings) (keys : List Key) : Settings :=
  keys.foldl (place layer) settings

theorem held_place (layer : Layer) (settings : Settings) (key : Key) :
    (place layer settings key).held key = (layer key).or (settings.held key) := by
  unfold place
  cases layer key with
  | none => rfl
  | some content => exact held_assign settings key content

theorem held_place_of_ne (layer : Layer) (settings : Settings) {other : Key}
    (differs : other ≠ key) : (place layer settings key).held other = settings.held other := by
  unfold place
  cases layer key with
  | none => rfl
  | some content => exact held_assign_of_ne settings content differs

/-- What a layer says lies over what was held before. -/
theorem held_cover (silent : ∀ key ∉ keys, layer key = none) :
    (cover layer settings keys).held = layer.above settings.held := by
  suffices ∀ key, (cover layer settings keys).held key =
      if key ∈ keys then (layer key).or (settings.held key) else settings.held key by
    funext key
    rw [this key, Layer.above]
    split_ifs with member
    · rfl
    · rw [silent key member, Option.none_or]
  clear silent
  induction keys generalizing settings with
  | nil => simp [cover]
  | cons first rest ih =>
      intro key
      rw [cover, List.foldl_cons, ← cover, ih]
      -- A key that comes again gets the content that it has got before.
      by_cases same : key = first
      · subst same
        rw [held_place]
        simp [← Option.or_assoc]
      · rw [held_place_of_ne layer settings same]
        simp [same]

theorem exists_above (layer : Layer) (settings : Settings) :
    ∃ after : Settings, after.held = layer.above settings.held :=
  ⟨cover layer settings Key.all, held_cover layer.silent_beyond⟩

/-- Settings are determined by a layer and what it lies over. -/
theorem eq_cover_iff (silent : ∀ key ∉ keys, layer key = none) :
    after = cover layer settings keys ↔ after.held = layer.above settings.held := by
  rw [← held_cover silent, held_injective.eq_iff]

end Cover

section Sets

variable {Given : Type} {means : (key : Key) → Given → key.Content → Prop}
  {found : Key → Option Given} {keys : List Key} {layer : Layer}

theorem sets_all_iff : Sets means found Key.all layer ↔
    ∀ key, Option.Rel (means key) (found key) (layer key) :=
  ⟨fun sets key => sets.given key key.mem_all,
    fun given => ⟨fun key _ => given key, layer.silent_beyond⟩⟩

/-- A layer without what it says about other keys. -/
def Layer.within (layer : Layer) (keys : List Key) : Layer :=
  fun key => if key ∈ keys then layer key else none

theorem sets_within (given : ∀ key ∈ keys, Option.Rel (means key) (found key) (layer key)) :
    Sets means found keys (layer.within keys) where
  given key member := by
    rw [Layer.within, if_pos member]
    exact given key member
  silent key missing := if_neg missing

end Sets

/-! ## The environment -/

section Environment

variable {lookup : Lookup} {settings after : Settings} {layer : Layer} {key : Key}
  {keys : List Key}

/-- The layer says what the variables of some keys stand for. -/
abbrev FromEnvironment (lookup : Lookup) (keys : List Key) (layer : Layer) : Prop :=
  Sets Key.Denotes (fun key => lookup key.variable) keys layer

/-- The variable of a key is set to a text that is refused, and the failure names both. -/
def Refuses (lookup : Lookup) (key : Key) (failure : Failure) : Prop :=
  ∃ text reason, lookup key.variable = some text ∧ key.read text = .error reason ∧
    failure = .invalidValue key text reason

theorem override_of_rel
    (given : Option.Rel key.Denotes (lookup key.variable) (layer key)) :
    override lookup settings key = .ok (place layer settings key) := by
  unfold override place
  generalize lookup key.variable = set, layer key = content at given ⊢
  cases given with
  | none => rfl
  | some denotes =>
      simp only [Key.read_eq_ok_iff.mpr denotes]
      rfl

theorem exists_refuses_iff : (∃ failure, Refuses lookup key failure) ↔
    ∃ text, lookup key.variable = some text ∧ ¬ ∃ content, key.Denotes text content := by
  simp only [← Key.refuses_iff]
  constructor
  · rintro ⟨_, text, reason, set, refused, rfl⟩
    exact ⟨text, set, reason, refused⟩
  · rintro ⟨text, set, reason, refused⟩
    exact ⟨_, text, reason, set, refused, rfl⟩

theorem override_of_refuses {failure : Failure} (refuses : Refuses lookup key failure) :
    override lookup settings key = .error failure := by
  obtain ⟨text, reason, set, refused, rfl⟩ := refuses
  simp only [override, set, refused]

/-- Variables that stand for contents are all taken. -/
theorem overrideEach_append
    (given : ∀ key ∈ keys, Option.Rel key.Denotes (lookup key.variable) (layer key))
    (later : List Key) :
    overrideEach lookup settings (keys ++ later) =
      overrideEach lookup (cover layer settings keys) later := by
  induction keys generalizing settings with
  | nil => rfl
  | cons key rest ih =>
      obtain ⟨first, others⟩ := List.forall_mem_cons.mp given
      rw [List.cons_append, overrideEach, override_of_rel first]
      exact ih others

/-- What the variables stand for that stand for anything. -/
def environmentLayer (lookup : Lookup) : Layer :=
  fun key => (lookup key.variable).bind fun text => (key.read text).toOption

/-- A variable is unset, or stands for a content, or is refused. -/
theorem rel_or_refuses (lookup : Lookup) (key : Key) :
    Option.Rel key.Denotes (lookup key.variable) (environmentLayer lookup key) ∨
      ∃ failure, Refuses lookup key failure := by
  rw [environmentLayer]
  cases set : lookup key.variable with
  | none => exact .inl .none
  | some text =>
      rw [Option.bind_some]
      cases read : key.read text with
      | ok content => exact .inl (.some (Key.read_eq_ok_iff.mp read))
      | error reason => exact .inr ⟨_, text, reason, set, read, rfl⟩

/-- Of some variables all are taken, or there is a first one that is refused. -/
theorem taken_or_refused (lookup : Lookup) (keys : List Key) :
    (∃ layer, FromEnvironment lookup keys layer) ∨
      ∃ earlier key later layer failure, keys = earlier ++ key :: later ∧
        FromEnvironment lookup earlier layer ∧ Refuses lookup key failure := by
  suffices
      (∀ key ∈ keys,
        Option.Rel key.Denotes (lookup key.variable) (environmentLayer lookup key)) ∨
      ∃ earlier key later failure, keys = earlier ++ key :: later ∧
        (∀ key ∈ earlier,
          Option.Rel key.Denotes (lookup key.variable) (environmentLayer lookup key)) ∧
        Refuses lookup key failure by
    -- One layer serves for every part of the environment, cut down to its keys.
    obtain all | ⟨earlier, key, later, failure, split, given, refuses⟩ := this
    · exact .inl ⟨_, sets_within all⟩
    · exact .inr ⟨earlier, key, later, _, failure, split, sets_within given, refuses⟩
  induction keys with
  | nil => simp
  | cons first rest ih =>
      obtain given | ⟨failure, refuses⟩ := rel_or_refuses lookup first
      · obtain all | ⟨earlier, key, later, failure, rfl, passed, refuses⟩ := ih
        · exact .inl (List.forall_mem_cons.mpr ⟨given, all⟩)
        · exact .inr ⟨first :: earlier, key, later, failure, rfl,
            List.forall_mem_cons.mpr ⟨given, passed⟩, refuses⟩
      · exact .inr ⟨[], first, rest, failure, rfl, by simp, refuses⟩

theorem overrideEach_taken (sets : FromEnvironment lookup keys layer) :
    overrideEach lookup settings keys = (none, cover layer settings keys) := by
  have run : overrideEach lookup settings (keys ++ []) = (none, cover layer settings keys) :=
    overrideEach_append sets.given []
  rwa [List.append_nil] at run

theorem overrideEach_refused {failure : Failure} (sets : FromEnvironment lookup keys layer)
    (refuses : Refuses lookup key failure) (later : List Key) :
    overrideEach lookup settings (keys ++ key :: later) =
      (some failure, cover layer settings keys) := by
  rw [overrideEach_append sets.given, overrideEach, override_of_refuses refuses]

/-- Overriding succeeds if every variable stands for a content or is unset, and the contents then
lie over the settings. -/
theorem overrideAll_eq_none_iff : overrideAll lookup settings = (none, after) ↔
    ∃ layer, FromEnvironment lookup Key.all layer ∧ after.held = layer.above settings.held := by
  constructor
  · intro run
    obtain ⟨layer, sets⟩ | ⟨earlier, key, later, layer, failure, split, sets, refuses⟩ :=
      taken_or_refused lookup Key.all
    · rw [overrideAll, overrideEach_taken sets, Prod.mk.injEq] at run
      exact ⟨layer, sets, (eq_cover_iff sets.silent).mp run.2.symm⟩
    · rw [overrideAll, split, overrideEach_refused sets refuses] at run
      cases run
  · rintro ⟨layer, sets, covers⟩
    rw [overrideAll, overrideEach_taken sets, (eq_cover_iff sets.silent).mpr covers]

/-- Overriding fails at the first variable whose text stands for nothing.  The contents of the
variables before it then lie over the settings. -/
theorem overrideAll_eq_some_iff {failure : Failure} :
    overrideAll lookup settings = (some failure, after) ↔
      ∃ earlier key later layer, Key.all = earlier ++ key :: later ∧
        FromEnvironment lookup earlier layer ∧ Refuses lookup key failure ∧
        after.held = layer.above settings.held := by
  constructor
  · intro run
    obtain ⟨layer, sets⟩ | ⟨earlier, key, later, layer, other, split, sets, refuses⟩ :=
      taken_or_refused lookup Key.all
    · rw [overrideAll, overrideEach_taken sets] at run
      cases run
    · rw [overrideAll, split, overrideEach_refused sets refuses, Prod.mk.injEq,
        Option.some.injEq] at run
      obtain ⟨rfl, same⟩ := run
      exact ⟨earlier, key, later, layer, split, sets, refuses,
        (eq_cover_iff sets.silent).mp same.symm⟩
  · rintro ⟨earlier, key, later, layer, split, sets, refuses, covers⟩
    rw [overrideAll, split, overrideEach_refused sets refuses,
      (eq_cover_iff sets.silent).mpr covers]

/-- What is held under a key depends on its own variable and on what was held under it. -/
theorem held_of_overrideAll {other : Lookup} {settings' after' : Settings}
    (one : overrideAll lookup settings = (none, after))
    (two : overrideAll other settings' = (none, after'))
    (set : lookup key.variable = other key.variable)
    (before : settings.held key = settings'.held key) : after.held key = after'.held key := by
  obtain ⟨layer, sets, covers⟩ := overrideAll_eq_none_iff.mp one
  obtain ⟨layer', sets', covers'⟩ := overrideAll_eq_none_iff.mp two
  have given := sets_all_iff.mp sets key
  rw [set] at given
  have same := rel_unique (fun one other => one.unique other) given (sets_all_iff.mp sets' key)
  rw [covers, covers', Layer.above, Layer.above, same, before]

/-- Two environments in turn are the second one that falls back to the first. -/
theorem overrideAll_twice {first second : Lookup} {between : Settings}
    (before : overrideAll first settings = (none, between))
    (later : overrideAll second between = (none, after)) :
    overrideAll (fun name => (second name).or (first name)) settings = (none, after) := by
  obtain ⟨lower, setsLower, under⟩ := overrideAll_eq_none_iff.mp before
  obtain ⟨upper, setsUpper, covers⟩ := overrideAll_eq_none_iff.mp later
  refine overrideAll_eq_none_iff.mpr ⟨upper.above lower, sets_all_iff.mpr fun key => ?_, ?_⟩
  · exact rel_or (sets_all_iff.mp setsUpper key) (sets_all_iff.mp setsLower key)
  · rw [covers, under, Layer.above_assoc]

end Environment

/-! ## The settings file -/

section File

variable {entries : Toml.Entries} {settings after : Settings} {layer : Layer} {keys : List Key}

/-- The layer says what the entries of a file stand for. -/
abbrev FromEntries (entries : Toml.Entries) (keys : List Key) (layer : Layer) : Prop :=
  Sets Key.StandsFor (fun key => entries.lookup key.name) keys layer

/-- What the entries of a file say under the name of a key, if they have it. -/
inductive Key.FoundIn (entries : Toml.Entries) (key : Key) : Option key.Content → Prop where
  | absent : (∀ value, (key.name, value) ∉ entries) → FoundIn entries key none
  | present {value : Toml.Value} {content : key.Content} :
      (key.name, value) ∈ entries → key.StandsFor value content →
      FoundIn entries key (some content)

/-- Where no name is given twice, the first entry of a name is the only one. -/
theorem rel_lookup_iff (distinct : entries.Distinct) {key : Key} {content : Option key.Content} :
    Option.Rel key.StandsFor (entries.lookup key.name) content ↔ key.FoundIn entries content := by
  constructor
  · generalize looked : entries.lookup key.name = found
    intro given
    cases given with
    | none => exact .absent (Toml.Entries.lookup_eq_none_iff.mp looked)
    | some stands => exact .present (distinct.lookup_eq_some_iff.mp looked) stands
  · intro found
    cases found with
    | absent missing =>
        rw [Toml.Entries.lookup_eq_none_iff.mpr missing]
        exact .none
    | present member stands =>
        rw [distinct.lookup_eq_some_iff.mpr member]
        exact .some stands

/-- The layer of a settings file, which is silent if there is no file. -/
inductive FromFile (read : Toml.Reading) : Option (Except SystemError Bytes) → Layer → Prop where
  | absent : FromFile read none fun _ => none
  | present {text : String} {entries : Toml.Entries} {layer : Layer} :
      read text = some entries → (∀ key : Key, key.FoundIn entries (layer key)) →
      FromFile read (some (.ok (Text.Utf8.encode text))) layer

/-- What the entries stand for that stand for anything. -/
def entriesLayer (entries : Toml.Entries) : Layer :=
  fun key => (entries.lookup key.name).bind key.ofValue?

theorem eq_entriesLayer (sets : FromEntries entries Key.all layer) :
    layer = entriesLayer entries := by
  funext key
  have given := sets_all_iff.mp sets key
  rw [entriesLayer]
  generalize entries.lookup key.name = found, layer key = content at given ⊢
  cases given with
  | none => rfl
  | some stands => exact (Key.ofValue?_eq_some_iff.mpr stands).symm

theorem adopt_eq_some_iff (key : Key) : adopt entries settings key = some after ↔
    Option.Rel key.StandsFor (entries.lookup key.name) (entriesLayer entries key) ∧
      place (entriesLayer entries) settings key = after := by
  rw [adopt, place, entriesLayer]
  cases entries.lookup key.name with
  | none => simp
  | some value =>
      simp only [Option.bind_some]
      cases stands : key.ofValue? value with
      | none => exact iff_of_false nofun fun ⟨given, _⟩ => nomatch given
      | some content =>
          have standing := Key.ofValue?_eq_some_iff.mp stands
          exact ⟨fun same => ⟨.some standing, Option.some.inj same⟩,
            fun ⟨_, same⟩ => congrArg some same⟩

theorem foldlM_adopt : keys.foldlM (adopt entries) settings = some after ↔
    (∀ key ∈ keys,
      Option.Rel key.StandsFor (entries.lookup key.name) (entriesLayer entries key)) ∧
      cover (entriesLayer entries) settings keys = after := by
  induction keys generalizing settings with
  | nil => simp [cover]
  | cons first rest ih =>
      simp only [List.foldlM_cons, Option.bind_eq_bind, Option.bind_eq_some_iff,
        adopt_eq_some_iff, ih, List.forall_mem_cons, cover, List.foldl_cons]
      constructor
      · rintro ⟨_, ⟨given, rfl⟩, others, rfl⟩
        exact ⟨⟨given, others⟩, rfl⟩
      · rintro ⟨⟨given, others⟩, rfl⟩
        exact ⟨_, ⟨given, rfl⟩, others, rfl⟩

/-- The settings of entries are what these stand for, over the defaults. -/
theorem ofEntries?_eq_some_iff : ofEntries? entries = some settings ↔
    ∃ layer, FromEntries entries Key.all layer ∧
      settings.held = layer.above ({} : Settings).held := by
  rw [ofEntries?, foldlM_adopt, eq_comm, eq_cover_iff (entriesLayer entries).silent_beyond]
  constructor
  · rintro ⟨given, covers⟩
    exact ⟨_, sets_all_iff.mpr fun key => given key key.mem_all, covers⟩
  · rintro ⟨layer, sets, covers⟩
    obtain rfl := eq_entriesLayer sets
    exact ⟨sets.given, covers⟩

/-- A layer that is silent leaves everything as it is. -/
theorem held_eq_above_silent : settings.held = Layer.above (fun _ => none) after.held ↔
    settings = after := by
  have silent : Layer.above (fun _ => none) after.held = after.held :=
    funext fun _ => Option.none_or
  rw [silent, held_injective.eq_iff]

variable {read : Toml.Reading}

/-- The settings of a file are what it stands for, over the defaults. -/
theorem ofContent_eq_ok_iff (distinct : read.Distinct) {content : Except SystemError Bytes} :
    ofContent read content = .ok settings ↔
      ∃ layer, FromFile read (some content) layer ∧
        settings.held = layer.above ({} : Settings).held := by
  constructor
  · intro taken
    unfold ofContent at taken
    split at taken
    · cases taken
    · next octets =>
      split at taken
      · cases taken
      · next text decoded =>
        split at taken
        · cases taken
        · next accepted =>
          obtain ⟨entries, parsed, found⟩ := Option.bind_eq_some_iff.mp accepted
          obtain ⟨layer, sets, covers⟩ := ofEntries?_eq_some_iff.mp found
          obtain rfl := Text.Utf8.text?_eq_some_iff.mp decoded
          cases taken
          refine ⟨layer, .present parsed fun key => ?_, covers⟩
          exact (rel_lookup_iff (distinct _ _ parsed)).mp (sets_all_iff.mp sets key)
  · rintro ⟨layer, source, covers⟩
    cases source with
    | present parsed given =>
        have sets := sets_all_iff.mpr fun key =>
          (rel_lookup_iff (distinct _ _ parsed)).mpr (given key)
        have found := ofEntries?_eq_some_iff.mpr ⟨layer, sets, covers⟩
        simp only [ofContent, Text.Utf8.text?_eq_some_iff.mpr rfl, parsed, Option.bind_some, found]

theorem ofFile_eq_ok_iff (distinct : read.Distinct)
    {file : Option (Except SystemError Bytes)} :
    file.elim (.ok {}) (ofContent read) = .ok settings ↔
      ∃ layer, FromFile read file layer ∧ settings.held = layer.above ({} : Settings).held := by
  cases file with
  | some content => exact ofContent_eq_ok_iff distinct
  | none =>
      constructor
      · intro same
        exact ⟨_, .absent, held_eq_above_silent.mpr (Except.ok.inj same).symm⟩
      · rintro ⟨layer, source, covers⟩
        cases source
        rw [held_eq_above_silent.mp covers]
        rfl

end File

/-! ## All sources -/

section All

variable {settings after : Settings} {lookup : Lookup} {read : Toml.Reading}

theorem withOverrides_eq_ok_iff :
    settings.withOverrides lookup = .ok after ↔ overrideAll lookup settings = (none, after) := by
  unfold withOverrides
  split <;> simp [*]

/-- The file lies over the defaults, and the environment over the file. -/
theorem load_eq_ok_iff (distinct : read.Distinct) {file : Option (Except SystemError Bytes)}
    {environment : Lookup} :
    load read file environment = .ok settings ↔
      ∃ lower upper, FromFile read file lower ∧ FromEnvironment environment Key.all upper ∧
        settings.held = upper.above (lower.above ({} : Settings).held) := by
  have bound : load read file environment = .ok settings ↔
      ∃ base, file.elim (.ok {}) (ofContent read) = .ok base ∧
        base.withOverrides environment = .ok settings := by
    unfold load
    cases file.elim (.ok {}) (ofContent read) with
    | error failure => exact iff_of_false nofun (by simp)
    | ok base => simp [Bind.bind, Except.bind]
  simp only [bound, ofFile_eq_ok_iff distinct, withOverrides_eq_ok_iff, overrideAll_eq_none_iff]
  constructor
  · rintro ⟨base, ⟨lower, source, under⟩, upper, sets, covers⟩
    exact ⟨lower, upper, source, sets, under ▸ covers⟩
  · rintro ⟨lower, upper, source, sets, covers⟩
    obtain ⟨base, under⟩ := exists_above lower {}
    exact ⟨base, ⟨lower, source, under⟩, upper, sets, under ▸ covers⟩

end All

end EngineGateway.Settings

namespace EngineGateway.CommandLine

open Engine Settings

/-- The layer of the command line. -/
def Arguments.layer (arguments : Arguments) : Layer
  | .bindAddress => arguments.bind
  | .port => arguments.port
  | _ => none

theorem Arguments.held_apply (arguments : Arguments) (settings : Settings) :
    (arguments.apply settings).held = arguments.layer.above settings.held := by
  funext key
  rcases arguments with ⟨config, _ | bind, _ | port, debug⟩ <;> cases key <;> rfl

/-- The command line lies over the environment. -/
theorem settingsFor_eq_ok_iff {toml : Toml.Reading} (distinct : toml.Distinct)
    {surroundings : Surroundings} {arguments : Arguments} {settings : Settings} :
    settingsFor toml surroundings arguments = .ok settings ↔
      ∃ lower upper, FromFile toml (arguments.config.map surroundings.file) lower ∧
        FromEnvironment surroundings.environment Key.all upper ∧
        settings.held = arguments.layer.above (upper.above (lower.above ({} : Settings).held)) := by
  have loads : settingsFor toml surroundings arguments = .ok settings ↔
      ∃ base, load toml (arguments.config.map surroundings.file) surroundings.environment =
        .ok base ∧ arguments.apply base = settings := by
    simp only [settingsFor]
    split <;> simp [*]
  simp only [loads, load_eq_ok_iff distinct]
  constructor
  · rintro ⟨base, ⟨lower, upper, source, sets, covers⟩, rfl⟩
    exact ⟨lower, upper, source, sets, by rw [arguments.held_apply, covers]⟩
  · rintro ⟨lower, upper, source, sets, covers⟩
    obtain ⟨file, under⟩ := exists_above lower {}
    obtain ⟨base, above⟩ := exists_above upper file
    rw [under] at above
    refine ⟨base, ⟨lower, upper, source, sets, above⟩, held_injective ?_⟩
    rw [arguments.held_apply, above, covers]

/-- Settings come in layers.

Overriding from one environment and then from another is overriding from the second one where
it falls back to the first.  It succeeds if what the variables are set to stands for contents,
which then lie over the settings, so that what is held under a key depends on its own variable
and on what was held under it.  The settings of a run are those of the command line over those of
the environment, over those of the file, over the defaults, in whatever way documents are read
that give no name twice.

Overriding fails at the first variable, in the order of the keys, whose text stands for nothing.
The failure names the key and the whole text, and what has been overridden are the settings of
the variables before it and no others. -/
theorem layers_override {toml : Toml.Reading} (distinct : toml.Distinct) :
    (∀ first second settings between after,
      overrideAll first settings = (none, between) →
      overrideAll second between = (none, after) →
        overrideAll (fun name => (second name).or (first name)) settings = (none, after)) ∧
    Key.all.map (fun key => (key.name, key.variable)) =
      [("bind_addr", "BRIDGE_BIND_ADDR"), ("port", "BRIDGE_PORT"),
        ("max_clients", "BRIDGE_MAX_CLIENTS"), ("discovery_file", "BRIDGE_DISCOVERY_FILE"),
        ("engine_host", "BRIDGE_ENGINE_HOST"),
        ("connect_timeout_ms", "BRIDGE_CONNECT_TIMEOUT_MS"),
        ("receive_timeout_ms", "BRIDGE_RECEIVE_TIMEOUT_MS"),
        ("poll_interval_ms", "BRIDGE_POLL_INTERVAL_MS"),
        ("retry_interval_ms", "BRIDGE_RETRY_INTERVAL_MS"),
        ("attach_settle_ms", "BRIDGE_ATTACH_SETTLE_MS"),
        ("probe_command", "BRIDGE_PROBE_COMMAND"),
        ("trust_forwarded_tls", "BRIDGE_TRUST_FORWARDED_TLS")] ∧
    Function.Injective Key.variable ∧
    (∀ lookup settings after, overrideAll lookup settings = (none, after) ↔
      ∃ layer, FromEnvironment lookup Key.all layer ∧
        after.held = layer.above settings.held) ∧
    (∀ one other before before' after after' key,
      overrideAll one before = (none, after) → overrideAll other before' = (none, after') →
      one key.variable = other key.variable → before.held key = before'.held key →
        after.held key = after'.held key) ∧
    (∀ surroundings arguments settings,
      settingsFor toml surroundings arguments = .ok settings ↔
        ∃ file environment, FromFile toml (arguments.config.map surroundings.file) file ∧
          FromEnvironment surroundings.environment Key.all environment ∧
          ∀ key, settings.held key = (arguments.layer key).or
            ((environment key).or ((file key).or (({} : Settings).held key)))) ∧
    (∀ lookup settings after failure,
      overrideAll lookup settings = (some failure, after) ↔
        ∃ earlier key later layer, Key.all = earlier ++ key :: later ∧
          FromEnvironment lookup earlier layer ∧ Refuses lookup key failure ∧
          after.held = layer.above settings.held) ∧
    ∀ lookup key, (∃ failure, Refuses lookup key failure) ↔
      ∃ text, lookup key.variable = some text ∧ ¬ ∃ content, key.Denotes text content := by
  refine ⟨fun _ _ _ _ _ => overrideAll_twice, Key.names_and_variables, Key.variable_injective,
    fun _ _ _ => overrideAll_eq_none_iff, fun _ _ _ _ _ _ _ => held_of_overrideAll, ?_,
    fun _ _ _ _ => overrideAll_eq_some_iff, fun _ _ => exists_refuses_iff⟩
  intro surroundings arguments settings
  simp only [settingsFor_eq_ok_iff distinct, funext_iff, Layer.above]

/-! ## A hall -/

/-- What stands in the settings file of the hall. -/
def hallFile : String :=
  "port = 80 # usual\nmax_clients = 3\nengine_host = \"::1\"\n"

/-- What the variables of the hall are set to. -/
def hallText : Key → Option String
  | .port => some " 81 "
  | .maxClients => some "\t+5"
  | _ => none

/-- A machine with the settings file and the variables of the hall. -/
def hall : Surroundings where
  file path := if path = "hall.toml" then .ok (Text.Utf8.encode hallFile) else .error .noSuchFile
  environment name :=
    if name = "BRIDGE_PORT" then hallText .port
    else if name = "BRIDGE_MAX_CLIENTS" then hallText .maxClients
    else none
  canListen _ _ := true

def hallArguments : Arguments where
  config := some "hall.toml"
  port := some 82

/-- The layer of the settings file. -/
def hallBelow : Layer
  | .port => some (80 : Nat)
  | .maxClients => some (3 : Nat)
  | .engineHost => some (.v6 0 0 0 0 0 0 0 1)
  | _ => none

/-- The layer of the variables. -/
def hallAbove : Layer
  | .port => some (81 : Nat)
  | .maxClients => some (5 : Nat)
  | _ => none

theorem fromFile_hall : FromFile Toml.parse? (some (hall.file "hall.toml")) hallBelow := by
  have parsed : Toml.parse? hallFile = some [("port", .integer 80), ("max_clients", .integer 3),
      ("engine_host", .text "::1")] := by
    cbv
  refine .present parsed fun key => ?_
  cases key with
  | port =>
      refine Key.FoundIn.present (?_ : (_, .integer 80) ∈ _) ⟨rfl, by decide⟩
      simp [Key.name]
  | maxClients =>
      refine Key.FoundIn.present (?_ : (_, .integer 3) ∈ _) ⟨rfl, by decide⟩
      simp [Key.name]
  | engineHost =>
      have host : Net.Address.parse? "::1" = some (.v6 0 0 0 0 0 0 0 1) := by decide +kernel
      refine Key.FoundIn.present (?_ : (_, .text "::1") ∈ _) ⟨"::1", rfl, host⟩
      simp [Key.name]
  | _ => exact .absent (by simp [Key.name])

theorem fromEnvironment_hall : FromEnvironment hall.environment Key.all hallAbove := by
  refine sets_all_iff.mpr fun key => ?_
  have set : hall.environment key.variable = hallText key := by
    cases key <;> decide +kernel
  rw [set]
  cases key with
  | port => exact .some (readNumber_eq_ok_iff.mp (by decide +kernel))
  | maxClients => exact .some (readNumber_eq_ok_iff.mp (by decide +kernel))
  | _ => exact .none

/-- In the hall the port comes from the command line, which overrides the variable and the file,
the number of clients from its variable, which overrides the file, and the host from the file.
Of two variables for the port, one after the other, the second one counts, and the number of
clients stays what it was. -/
theorem layers_override_hall :
    Toml.Reading.Distinct Toml.parse? ∧
    settingsFor Toml.parse? hall hallArguments =
      .ok { port := 82, maxClients := 5, engineHost := .v6 0 0 0 0 0 0 0 1 } ∧
    let first : Lookup := fun name => if name = "BRIDGE_PORT" then some " 80 " else none
    let second : Lookup := fun name => if name = "BRIDGE_PORT" then some "+81" else none
    overrideAll (fun name => (second name).or (first name)) {} = (none, { port := 81 }) ∧
      ({ port := 80 } : Settings).held .maxClients = some (1024 : Nat) := by
  have general := layers_override Toml.parse?_distinct
  refine ⟨Toml.parse?_distinct, ?_, ?_⟩
  · refine (general.2.2.2.2.2.1 hall hallArguments _).mpr
      ⟨hallBelow, hallAbove, fromFile_hall, fromEnvironment_hall, fun key => ?_⟩
    cases key <;> rfl
  · intro first second
    have once : overrideAll first {} = (none, { port := 80 }) := by decide +kernel
    have again : overrideAll second { port := 80 } = (none, { port := 81 }) := by decide +kernel
    have idle : overrideAll (fun _ => none) {} = (none, {}) := by decide +kernel
    refine ⟨general.1 first second {} { port := 80 } { port := 81 } once again, ?_⟩
    exact general.2.2.2.2.1 first (fun _ => none) {} {} _ _ .maxClients once idle
      (by decide +kernel) rfl

end EngineGateway.CommandLine
