import FanServer.Proofs.Layering
import Mathlib.Data.List.Induction

/-!
# Which layer a setting is taken from

Files and overrides are added in any order. A setting has the value that was given to it **last**,
where every override counts as later than every file. Only that value is converted.

* `Setting.fromFiles`, `Setting.fromOverrides` — the values that the layers give to a setting;
* `Setting.last` — the one that was given last, or the default;
* `Setting.effective` — what the values come to when each is laid over those before it. A table is
  laid over a value key by key, so it need not replace it; anything else does;
* `Loader.Order` — an order in which the keys of the files and the overrides may be gone through;
* `Loader.build_of_layers` — in every order, the settings that are built are those that the
  effective values spell.

Four things are asked of a file: it can be read (`Source.isReadable`), the tables that settings
belong to are only ever tables (`Source.keepsTables`), it names no setting twice
(`Source.namesOnce`), and an index in one of its keys has a place in every list
(`Source.hasPlaces`).
-/

namespace FanServer.Settings

/-! ## Layers -/

/-- A layer over the defaults. -/
inductive Layer where
  /-- a file -/
  | file (source : Source)
  /-- a value for one setting -/
  | override (setting : Setting) (value : Value)

namespace Layer

/-- The file, if the layer is one. -/
def source? : Layer → Option Source
  | file source => some source
  | override _ _ => none

/-- The setting and its value, if the layer is an override. -/
def override? : Layer → Option (Setting × Value)
  | file _ => none
  | override setting value => some (setting, value)

/-- The files among layers. -/
def files (layers : List Layer) : List Source :=
  layers.filterMap source?

/-- The overrides among layers. -/
def overrides (layers : List Layer) : List (Setting × Value) :=
  layers.filterMap override?

/-- Add an override, in place of an earlier one of the same setting. -/
def replace (standing : List (Setting × Value)) (override : Setting × Value) :
    List (Setting × Value) :=
  standing.filter (fun other => other.1 ≠ override.1) ++ [override]

/-- The overrides that count, at most one of each setting. -/
def standing (overrides : List (Setting × Value)) : List (Setting × Value) :=
  overrides.foldl replace []

@[simp]
theorem files_file (source : Source) (layers : List Layer) :
    files (.file source :: layers) = source :: files layers := rfl

@[simp]
theorem files_override (setting : Setting) (value : Value) (layers : List Layer) :
    files (.override setting value :: layers) = files layers := rfl

@[simp]
theorem overrides_file (source : Source) (layers : List Layer) :
    overrides (.file source :: layers) = overrides layers := rfl

@[simp]
theorem overrides_override (setting : Setting) (value : Value) (layers : List Layer) :
    overrides (.override setting value :: layers) = (setting, value) :: overrides layers := rfl

theorem overriddenBy_replace (setting : Setting) (standing : List (Setting × Value))
    (override : Setting × Value) :
    setting.overriddenBy (replace standing override) =
      if override.1 = setting then [override.2] else setting.overriddenBy standing := by
  induction standing with
  | nil => simp [replace, Setting.overriddenBy_cons]
  | cons other standing ih =>
    by_cases hother : other.1 = override.1
    · have hdropped : replace (other :: standing) override = replace standing override := by
        simp [replace, hother]
      rw [hdropped, ih, Setting.overriddenBy_cons, hother]
      split_ifs <;> rfl
    · have hkept : replace (other :: standing) override = other :: replace standing override := by
        simp [replace, hother]
      rw [hkept, Setting.overriddenBy_cons, ih, Setting.overriddenBy_cons]
      by_cases hsame : override.1 = setting
      · rw [if_pos hsame, if_neg (hsame ▸ hother), if_pos hsame, List.nil_append]
      · rw [if_neg hsame, if_neg hsame]

/-- **Of the overrides of a setting the last one counts.** -/
theorem overriddenBy_standing (setting : Setting) (overrides : List (Setting × Value)) :
    setting.overriddenBy (standing overrides) =
      (setting.overriddenBy overrides).getLast?.toList := by
  induction overrides using List.reverseRecOn with
  | nil => rfl
  | append_singleton overrides override ih =>
    rw [standing, List.foldl_append, List.foldl_cons, List.foldl_nil, overriddenBy_replace,
      Setting.overriddenBy_append, Setting.overriddenBy_cons, Setting.overriddenBy_nil,
      List.append_nil]
    by_cases hsame : override.1 = setting
    · rw [if_pos hsame, if_pos hsame, List.getLast?_concat]
      rfl
    · rw [if_neg hsame, if_neg hsame, List.append_nil]
      exact ih

/-- The loader of layers: files and overrides are kept apart. -/
def loader (layers : List Layer) : Loader :=
  ⟨files layers, (standing (overrides layers)).map fun override => (override.1.path, override.2)⟩

end Layer

namespace Loader

/-- Add a layer. -/
def add (loader : Loader) : Layer → Except LoadError Loader
  | .file source => .ok (loader.addSource source)
  | .override setting value => loader.addOverride setting.key value

/-- The loader to which layers are added in order. -/
def ofLayers (layers : List Layer) : Except LoadError Loader :=
  layers.foldlM add {}

theorem addOverride_key (sources : List Source) (standing : List (Setting × Value))
    (setting : Setting) (value : Value) :
    addOverride ⟨sources, standing.map fun override => (override.1.path, override.2)⟩ setting.key
        value =
      .ok ⟨sources, (Layer.replace standing (setting, value)).map fun override =>
        (override.1.path, override.2)⟩ := by
  simp [addOverride, setting.path?_key, Layer.replace, List.filter_map, Function.comp_def,
    Setting.path_injective.eq_iff]

theorem foldlM_add (sources : List Source) (standing : List (Setting × Value))
    (layers : List Layer) :
    layers.foldlM add ⟨sources, standing.map fun override => (override.1.path, override.2)⟩ =
      .ok ⟨sources ++ Layer.files layers,
        ((Layer.overrides layers).foldl Layer.replace standing).map fun override =>
          (override.1.path, override.2)⟩ := by
  induction layers generalizing sources standing with
  | nil => simp [Layer.files, Layer.overrides, pure, Except.pure]
  | cons layer layers ih =>
    cases layer with
    | file source =>
      rw [List.foldlM_cons]
      change layers.foldlM add ⟨sources ++ [source], _⟩ = _
      rw [ih, Layer.files_file, Layer.overrides_file, List.append_assoc, List.singleton_append]
    | override setting value =>
      rw [List.foldlM_cons, add, addOverride_key]
      exact ih sources (Layer.replace standing (setting, value))

theorem ofLayers_eq (layers : List Layer) : ofLayers layers = .ok (Layer.loader layers) :=
  foldlM_add [] [] layers

end Loader

/-! ## The values of layers -/

/-- The fields of a file; one that cannot be read has none. -/
def Source.content (source : Source) : List (String × Value) :=
  source.fields.toOption.getD []

namespace Setting

/-- The values that a file gives to the setting. -/
def fromSource (setting : Setting) (source : Source) : List Value :=
  source.content.flatMap setting.givenBy

/-- The values that files give to the setting, in order. -/
def fromFiles (setting : Setting) (layers : List Layer) : List Value :=
  (Layer.files layers).flatMap setting.fromSource

/-- The values that overrides give to the setting, in order. -/
def fromOverrides (setting : Setting) (layers : List Layer) : List Value :=
  setting.overriddenBy (Layer.overrides layers)

/-- **The value that was given last**: that of the last override, or else that of the last file that
has one, or else the default. -/
def last (setting : Setting) (layers : List Layer) : Value :=
  ((setting.fromOverrides layers).getLast?.or (setting.fromFiles layers).getLast?).getD
    setting.default

/-- **What the values come to**: those of the files and that of the last override, each laid over
those before it. -/
def effective (setting : Setting) (layers : List Layer) : Value :=
  (setting.fromFiles layers ++ (setting.fromOverrides layers).getLast?.toList).foldl Value.lay
    setting.default

end Setting

/-- Of values that are laid over each other the last one counts alone, if it is no table. -/
theorem foldl_lay_eq {values : List Value} {start : Value}
    (h : (values.getLast?.getD start).isTable = false) :
    values.foldl Value.lay start = values.getLast?.getD start := by
  rcases List.eq_nil_or_concat values with rfl | ⟨before, value, rfl⟩
  · rfl
  · simp only [List.concat_eq_append, List.getLast?_concat, Option.getD_some,
      List.foldl_append, List.foldl_cons, List.foldl_nil] at h ⊢
    exact Value.lay_eq h _

/-- **A value that is no table replaces those before it.** -/
theorem Setting.effective_eq_last {setting : Setting} {layers : List Layer}
    (h : (setting.last layers).isTable = false) :
    setting.effective layers = setting.last layers := by
  have hlast : setting.last layers = (setting.fromFiles layers ++
      (setting.fromOverrides layers).getLast?.toList).getLast?.getD setting.default := by
    rw [Setting.last, List.getLast?_append]
    cases (setting.fromOverrides layers).getLast? <;> rfl
  rw [hlast] at h ⊢
  exact foldl_lay_eq h

/-! ## What is asked of a file -/

namespace Source

/-- The file is well formed, or it is missing and need not be there. -/
def isReadable (source : Source) : Bool :=
  source.fields.isOk

/-- The tables that settings belong to are only ever tables. -/
def keepsTables (source : Source) : Bool :=
  source.content.all Settings.keepsTables

/-- No two keys of the file name the same setting: neither keys that differ only in case, nor a
quoted key that spells a path to the setting, or into it, and another one. -/
def namesOnce (source : Source) : Bool :=
  Setting.all.all fun setting => (setting.fromSource source).length ≤ 1

/-- Where a quoted key of the file spells a path, its indices are from 0 to 2^32 - 1. -/
def hasPlaces (source : Source) : Bool :=
  source.content.all Settings.hasPlaces

theorem fields_eq {source : Source} (h : source.isReadable = true) :
    source.fields = .ok source.content := by
  unfold isReadable at h
  unfold content
  cases hfields : source.fields with
  | error e => rw [hfields] at h; cases h
  | ok fields => rfl

theorem length_fromSource_le {source : Source} (h : source.namesOnce = true) (setting : Setting) :
    (setting.fromSource source).length ≤ 1 :=
  of_decide_eq_true (List.all_eq_true.mp h setting setting.mem_all)

end Source

/-! ## Orders -/

/-- **The value with its tables in another order.** The fields of a table, at any depth, may come in
any order. -/
inductive Value.Reordered : Value → Value → Prop where
  /-- nothing is moved -/
  | refl (value : Value) : Reordered value value
  /-- the fields of a table are moved -/
  | table {fields fields' : List (String × Value)} (h : fields.Perm fields') :
      Reordered (.table fields) (.table fields')
  /-- something is moved within a field -/
  | field (before after : List (String × Value)) (key : String) {value value' : Value}
      (h : Reordered value value') :
      Reordered (.table (before ++ (key, value) :: after))
        (.table (before ++ (key, value') :: after))
  /-- something is moved within an item -/
  | item (before after : List Value) {value value' : Value} (h : Reordered value value') :
      Reordered (.list (before ++ value :: after)) (.list (before ++ value' :: after))
  /-- one after the other -/
  | trans {value value' value'' : Value} (h : Reordered value value')
      (h' : Reordered value' value'') : Reordered value value''

/-- The file can be read as having the fields, in the order in which they are. -/
def Source.Yields (source : Source) (fields : List (String × Value)) : Prop :=
  ∃ read, source.fields = .ok read ∧ (Value.table read).Reordered (.table fields)

/-- **An order** in which the keys of the files and the overrides can be gone through. -/
structure Loader.Order (loader : Loader) where
  /-- the fields of the files -/
  files : List (List (String × Value))
  /-- the overrides -/
  overrides : List (List Step × Value)
  /-- the fields are those of the files -/
  yields : List.Forall₂ Source.Yields loader.sources files
  /-- the overrides are those of the loader -/
  perm : overrides.Perm loader.overrides

/-- The settings that the layers make in this order. -/
def Loader.Order.build {loader : Loader} (order : loader.Order) : Except LoadError Settings := do
  let merged ← order.files.foldlM mergeFile defaults
  ofValue (← applyOverrides merged order.overrides)

/-- The values are the same ones with their tables in another order, and may have changed places. -/
def Value.Rearranged (values values' : List Value) : Prop :=
  values'.length = values.length ∧ ∀ value' ∈ values', ∃ value ∈ values, value.Reordered value'

namespace Value.Rearranged

theorem refl (values : List Value) : Rearranged values values :=
  ⟨rfl, fun value hvalue => ⟨value, hvalue, .refl value⟩⟩

theorem of_perm {values values' : List Value} (h : values.Perm values') :
    Rearranged values values' :=
  ⟨h.length_eq.symm, fun value hvalue => ⟨value, h.mem_iff.mpr hvalue, .refl value⟩⟩

theorem trans {values values' values'' : List Value} (h : Rearranged values values')
    (h' : Rearranged values' values'') : Rearranged values values'' := by
  refine ⟨h'.1.trans h.1, ?_⟩
  intro value'' hvalue''
  obtain ⟨value', hvalue', hreordered'⟩ := h'.2 value'' hvalue''
  obtain ⟨value, hvalue, hreordered⟩ := h.2 value' hvalue'
  exact ⟨value, hvalue, hreordered.trans hreordered'⟩

theorem append {before before' after after' : List Value} (h : Rearranged before before')
    (h' : Rearranged after after') : Rearranged (before ++ after) (before' ++ after') := by
  refine ⟨by simp [h.1, h'.1], ?_⟩
  intro value' hvalue'
  rcases List.mem_append.mp hvalue' with hmem | hmem
  · obtain ⟨value, hvalue, hreordered⟩ := h.2 value' hmem
    exact ⟨value, List.mem_append_left _ hvalue, hreordered⟩
  · obtain ⟨value, hvalue, hreordered⟩ := h'.2 value' hmem
    exact ⟨value, List.mem_append_right _ hvalue, hreordered⟩

theorem singleton {value value' : Value} (h : value.Reordered value') :
    Rearranged [value] [value'] :=
  ⟨rfl, fun _ hother => ⟨value, List.mem_singleton_self value, List.mem_singleton.mp hother ▸ h⟩⟩

end Value.Rearranged

namespace Value.Reordered

variable {value value' : Value}

theorem isTable_eq (h : value.Reordered value') : value'.isTable = value.isTable := by
  induction h with
  | refl value => rfl
  | table h => rfl
  | field before after key h ih => rfl
  | item before after h ih => rfl
  | trans h h' ih ih' => exact ih'.trans ih

/-- What is no table looks alike, and tables have the same keys. -/
theorem alike_or_keys_perm (h : value.Reordered value') :
    (value.isTable = false ∧ value.Alike value') ∨
      ∃ fields fields', value = .table fields ∧ value' = .table fields' ∧
        (fields.map Prod.fst).Perm (fields'.map Prod.fst) := by
  induction h with
  | refl value =>
    cases htable : value.isTable with
    | false => exact .inl ⟨rfl, .same htable⟩
    | true =>
      obtain ⟨fields, rfl⟩ := isTable_iff.mp htable
      exact .inr ⟨fields, fields, rfl, rfl, .refl _⟩
  | table h => exact .inr ⟨_, _, rfl, rfl, h.map _⟩
  | field before after key h ih => exact .inr ⟨_, _, rfl, rfl, by simp⟩
  | item before after h ih => exact .inl ⟨rfl, .list _ _⟩
  | trans h h' ih ih' =>
    rcases ih with ⟨htable, halike⟩ | ⟨fields, fields', rfl, rfl, hkeys⟩
    · rcases ih' with ⟨-, halike'⟩ | ⟨fields', fields'', rfl, rfl, hkeys⟩
      · exact .inl ⟨htable, halike.trans halike'⟩
      · rw [← h.isTable_eq] at htable
        cases htable
    · rcases ih' with ⟨htable, -⟩ | ⟨_, fields'', heq, rfl, hkeys'⟩
      · cases htable
      · obtain rfl := Value.table.inj heq
        exact .inr ⟨fields, fields'', rfl, rfl, hkeys.trans hkeys'⟩

/-- The order of tables cannot be told from what is laid over what. -/
theorem alike_lay {old old' : Value} (h : old.Alike old') (hnew : value.Reordered value') :
    (old.lay value).Alike (old'.lay value') := by
  rcases hnew.alike_or_keys_perm with ⟨htable, halike⟩ | ⟨fields, fields', rfl, rfl, hkeys⟩
  · rw [lay_eq htable, lay_eq (halike.isTable_eq.trans htable)]
    exact halike
  · exact h.mergeFields hkeys

theorem given (h : value.Reordered value') (name : String) :
    Rearranged (value.given name) (value'.given name) := by
  induction h with
  | refl value => exact .refl _
  | table h => exact .of_perm (h.filterMap _)
  | @field before after key value value' h ih =>
    simp only [Value.given, fields_table, List.filterMap_append, List.filterMap_cons]
    refine (Rearranged.refl _).append ?_
    by_cases hkey : Text.lowerCase key = name
    · simpa [hkey] using (Rearranged.singleton h).append (.refl _)
    · simpa [hkey] using Rearranged.refl _
  | item before after h ih => exact .refl _
  | trans h h' ih ih' => exact ih.trans ih'

theorem nest (h : value.Reordered value') (path : List Step) :
    (Settings.nest path value).Reordered (Settings.nest path value') := by
  induction path with
  | nil => exact h
  | cons step path ih =>
    cases step with
    | key name => exact .field [] [] name ih
    | item index => exact .item _ [] ih

theorem givenBy (h : value.Reordered value') (setting : Setting) (key : String) :
    Rearranged (setting.givenBy (key, value)) (setting.givenBy (key, value')) := by
  obtain ⟨name, path, hpath⟩ := exists_fieldPath key
  simp only [Setting.givenBy, hpath]
  split_ifs
  · exact (h.nest path).given setting.name
  · exact .refl _

/-- **A file gives the same values in every order.** -/
theorem flatMap_givenBy (h : value.Reordered value') (setting : Setting) :
    Rearranged (value.fields.flatMap setting.givenBy) (value'.fields.flatMap setting.givenBy) := by
  induction h with
  | refl value => exact .refl _
  | table h => exact .of_perm (h.flatMap_right _)
  | field before after key h ih =>
    simp only [fields_table, List.flatMap_append, List.flatMap_cons]
    exact (Rearranged.refl _).append ((h.givenBy setting key).append (.refl _))
  | item before after h ih => exact .refl _
  | trans h h' ih ih' => exact ih.trans ih'

/-- What holds of all fields of a table holds of them in every order, if it does not depend on the
order within their values. -/
theorem forall_fields {p : String × Value → Prop}
    (hp : ∀ key value value', value.Reordered value' → p (key, value) → p (key, value'))
    (h : value.Reordered value') (hfields : ∀ field ∈ value.fields, p field) :
    ∀ field ∈ value'.fields, p field := by
  induction h with
  | refl value => exact hfields
  | table h => exact fun field hfield => hfields field (h.mem_iff.mpr hfield)
  | field before after key h ih =>
    simp only [fields_table, List.forall_mem_append, List.forall_mem_cons] at hfields ⊢
    exact ⟨hfields.1, hp key _ _ h hfields.2.1, hfields.2.2⟩
  | item before after h ih => exact hfields
  | trans h h' ih ih' => exact ih' (ih hfields)

theorem keepsTables (h : value.Reordered value') {key : String}
    (hkeeps : keepsTables (key, value) = true) : Settings.keepsTables (key, value') = true := by
  obtain ⟨name, path, hpath⟩ := exists_fieldPath key
  simp only [Settings.keepsTables, hpath] at hkeeps ⊢
  rw [(h.nest path).isTable_eq]
  exact hkeeps

end Value.Reordered

/-- Values that are given at most once come to the same in every order of their tables. -/
theorem Value.Rearranged.alike_foldl_lay {values values' : List Value} {old old' : Value}
    (h : Rearranged values values') (honce : values.length ≤ 1) (hold : old.Alike old') :
    (values.foldl Value.lay old).Alike (values'.foldl Value.lay old') := by
  obtain ⟨hlength, hmem⟩ := h
  rcases values with _ | ⟨value, _ | ⟨second, values⟩⟩
  · rcases values' with _ | ⟨value', values'⟩
    · exact hold
    · cases hlength
  · rcases values' with _ | ⟨value', _ | ⟨second', values'⟩⟩
    · cases hlength
    · obtain ⟨other, hother, hreordered⟩ := hmem value' (List.mem_singleton_self value')
      rw [List.mem_singleton.mp hother] at hreordered
      exact Value.Reordered.alike_lay hold hreordered
    · cases hlength
  · simp at honce

/-! ## Laying layers over the defaults in some order -/

section Holds

variable {base : Value} {values : Setting → Value}

/-- **A file in some order** is laid over the settings that it gives a value to. -/
theorem Holds.mergeFile_of_yields (h : Holds base values) {source : Source}
    {fields : List (String × Value)} (hyields : source.Yields fields)
    (htables : source.keepsTables = true) (honce : source.namesOnce = true)
    (hplaces : source.hasPlaces = true) :
    ∃ base', Settings.mergeFile base fields = .ok base' ∧
      Holds base' fun setting => (setting.fromSource source).foldl Value.lay (values setting) := by
  obtain ⟨read, hread, hreordered⟩ := hyields
  have hcontent : source.content = read := by rw [Source.content, hread]; rfl
  rw [Source.keepsTables, hcontent, List.all_eq_true] at htables
  rw [Source.hasPlaces, hcontent, List.all_eq_true] at hplaces
  obtain ⟨base', hmerge, hholds⟩ := h.mergeFile
    (hreordered.forall_fields (fun _ _ _ hvalue => hvalue.keepsTables) htables)
    (hreordered.forall_fields (fun _ _ _ _ hkey => hkey) hplaces)
  refine ⟨base', hmerge, hholds.congr ?_⟩
  intro setting
  have hgiven : Value.Rearranged (setting.fromSource source) (fields.flatMap setting.givenBy) := by
    rw [Setting.fromSource, hcontent]
    exact hreordered.flatMap_givenBy setting
  obtain ⟨_, value, -, -, halike⟩ := h setting
  exact (hgiven.alike_foldl_lay (Source.length_fromSource_le honce setting)
    (halike.symm.trans halike)).symm

theorem Holds.mergeFiles (h : Holds base values) {sources : List Source}
    {files : List (List (String × Value))} (hyields : List.Forall₂ Source.Yields sources files)
    (htables : ∀ source ∈ sources, source.keepsTables)
    (honce : ∀ source ∈ sources, source.namesOnce)
    (hplaces : ∀ source ∈ sources, source.hasPlaces) :
    ∃ base', files.foldlM Settings.mergeFile base = .ok base' ∧
      Holds base' fun setting =>
        (sources.flatMap setting.fromSource).foldl Value.lay (values setting) := by
  induction hyields generalizing base values with
  | nil => exact ⟨base, rfl, h⟩
  | cons hyields _ ih =>
    obtain ⟨htable, htables⟩ := List.forall_mem_cons.mp htables
    obtain ⟨hone, honce⟩ := List.forall_mem_cons.mp honce
    obtain ⟨hplace, hplaces⟩ := List.forall_mem_cons.mp hplaces
    obtain ⟨base', hmerge, hholds⟩ := h.mergeFile_of_yields hyields htable hone hplace
    obtain ⟨base'', hothers, hholds'⟩ := ih hholds htables honce hplaces
    refine ⟨base'', ?_, ?_⟩
    · rw [List.foldlM_cons, hmerge]
      exact hothers
    · simpa only [List.flatMap_cons, List.foldl_append] using hholds'

end Holds

/-- A setting is given the same by its standing overrides in every order: there is at most one. -/
theorem Setting.overriddenBy_eq_of_perm {overrides : List (Setting × Value)} {layers : List Layer}
    (h : overrides.Perm (Layer.standing (Layer.overrides layers))) (setting : Setting) :
    setting.overriddenBy overrides = (setting.fromOverrides layers).getLast?.toList := by
  have hperm : (setting.overriddenBy overrides).Perm
      (setting.fromOverrides layers).getLast?.toList := by
    rw [Setting.fromOverrides, ← Layer.overriddenBy_standing]
    exact h.filterMap _
  cases hlast : (setting.fromOverrides layers).getLast? with
  | none =>
    rw [hlast] at hperm
    exact List.perm_nil.mp hperm
  | some value =>
    rw [hlast] at hperm
    exact List.perm_singleton.mp hperm

/-- Files that can be read are laid over a value one after the other. -/
theorem mergeSources_eq (base : Value) {sources : List Source}
    (h : ∀ source ∈ sources, source.isReadable) :
    mergeSources base sources = (sources.map Source.content).foldlM mergeFile base := by
  induction sources generalizing base with
  | nil => rfl
  | cons source sources ih =>
    obtain ⟨hsource, hsources⟩ := List.forall_mem_cons.mp h
    rw [mergeSources, Source.fields_eq hsource, List.map_cons, List.foldlM_cons]
    exact bind_congr fun merged => ih merged hsources

namespace Loader.Order

/-- **In every order** the effective values of the settings are converted. -/
theorem build_eq_convert {layers : List Layer}
    (htables : ∀ source ∈ Layer.files layers, source.keepsTables)
    (honce : ∀ source ∈ Layer.files layers, source.namesOnce)
    (hplaces : ∀ source ∈ Layer.files layers, source.hasPlaces)
    (order : (Layer.loader layers).Order) :
    order.build = convert fun setting => setting.effective layers := by
  obtain ⟨files, overrides, hyields, hperm⟩ := order
  obtain ⟨standing, rfl, hstanding⟩ := (congrFun₂ (List.eq_map_comp_perm _) overrides _).mpr hperm
  obtain ⟨merged, hmerge, hmerged⟩ := holds_defaults.mergeFiles hyields htables honce hplaces
  obtain ⟨base, hoverride, hholds⟩ := hmerged.applyOverrides standing
  have heffective : Holds base fun setting => setting.effective layers := by
    simpa only [Setting.effective, Setting.fromFiles, Layer.loader, List.foldl_append,
      Setting.overriddenBy_eq_of_perm hstanding] using hholds
  rw [← heffective.ofValue_eq]
  simp only [build, hmerge, bind, Except.bind, hoverride]

/-- The order of the texts of the files, and of the addition of the overrides. -/
def document {loader : Loader} (h : ∀ source ∈ loader.sources, source.isReadable) :
    loader.Order where
  files := loader.sources.map Source.content
  overrides := loader.overrides
  yields := by
    rw [List.forall₂_map_right_iff, List.forall₂_same]
    intro source hsource
    exact ⟨source.content, Source.fields_eq (h source hsource), .refl _⟩
  perm := .refl _

theorem document_build {loader : Loader} (h : ∀ source ∈ loader.sources, source.isReadable) :
    (document h).build = loader.build := by
  simp only [build, document, Loader.build, mergeSources_eq defaults h]

end Loader.Order

/-! ## The settings that are built -/

/-- **Settings are built from the values that were given last.** The settings are those that the
effective values spell, and there are none exactly if one of these does not convert. Unless it is a
table, the effective value of a setting is the one that was given last. Where the overrides stand
among the files does not matter, nor does the order in which the keys of a file and the overrides
are gone through. -/
theorem Loader.build_of_layers {layers : List Layer}
    (hreadable : ∀ source ∈ Layer.files layers, source.isReadable)
    (htables : ∀ source ∈ Layer.files layers, source.keepsTables)
    (honce : ∀ source ∈ Layer.files layers, source.namesOnce)
    (hplaces : ∀ source ∈ Layer.files layers, source.hasPlaces) :
    ∃ loader, Loader.ofLayers layers = .ok loader ∧
      (∀ settings, loader.build = .ok settings ↔
        ∀ setting : Setting, setting.Spells (setting.effective layers) settings) ∧
      ((∃ e, loader.build = .error e) ↔
        ∃ setting : Setting, ¬ setting.Converts (setting.effective layers)) ∧
      (∀ setting : Setting, (setting.last layers).isTable = false →
        setting.effective layers = setting.last layers) ∧
      (∀ layers', Layer.files layers' = Layer.files layers →
        Layer.overrides layers' = Layer.overrides layers →
          Loader.ofLayers layers' = .ok loader) ∧
      ∀ order : loader.Order, order.build = loader.build := by
  have horder := Loader.Order.build_eq_convert htables honce hplaces
  have hbuild : (Layer.loader layers).build = convert fun setting => setting.effective layers := by
    rw [← Loader.Order.document_build hreadable, horder]
  refine ⟨Layer.loader layers, Loader.ofLayers_eq layers, ?_, ?_,
    fun setting => Setting.effective_eq_last, ?_, ?_⟩
  · intro settings
    rw [hbuild, convert_eq_ok_iff]
  · rw [hbuild, exists_convert_eq_error_iff]
  · intro layers' hfiles hoverrides
    rw [Loader.ofLayers_eq, Layer.loader, Layer.loader, hfiles, hoverrides]
  · intro order
    rw [horder order, hbuild]

/-- Overrides before the files, of which the later one replaces one of the wrong type, keys in
capitals, a key that spells a path, an index, and a value of the wrong type that a later file
replaces. -/
theorem Loader.build_of_interleaved_layers :
    ∃ loader, Loader.ofLayers [.override .report (.string "?"), .override .report (.string "No"),
        .file (.text "Logging.Level = []\n'x[1]' = 0"), .file (.missing false),
        .file (.text "'logging.LEVEL' = 7")] = .ok loader ∧
      loader.build = .ok ⟨⟨.information, "Has Action Method", false⟩, "7"⟩ := by
  obtain ⟨loader, hloader, hbuild, -⟩ := @Loader.build_of_layers
    [.override .report (.string "?"), .override .report (.string "No"),
      .file (.text "Logging.Level = []\n'x[1]' = 0"), .file (.missing false),
      .file (.text "'logging.LEVEL' = 7")]
    (by decide +kernel) (by decide +kernel) (by decide +kernel) (by decide +kernel)
  exact ⟨loader, hloader, (hbuild _).mpr (Setting.forall_iff.mpr (by decide +kernel))⟩

/-- **The values that were given last do not decide alone.** An empty table is no severity, but it
is laid over the default and changes nothing. And if an index has no place in its list, no settings
are built, although all else that is asked of the file holds and every setting has its default. -/
theorem Loader.build_of_empty_table_or_misplaced_item :
    (¬ Setting.severity.Converts (Setting.severity.last
        [.file (.text "[diagnostics]\nlinked_rule_severity = \x7b\x7d")]) ∧
      ∃ loader, Loader.ofLayers
          [.file (.text "[diagnostics]\nlinked_rule_severity = \x7b\x7d")] = .ok loader ∧
        loader.build = .ok {}) ∧
    ((Source.text "'x[-1]' = 1").isReadable ∧ (Source.text "'x[-1]' = 1").keepsTables ∧
        (Source.text "'x[-1]' = 1").namesOnce) ∧
      (∀ setting : Setting, setting.Spells (setting.last [.file (.text "'x[-1]' = 1")]) {}) ∧
      ∃ loader, Loader.ofLayers [.file (.text "'x[-1]' = 1")] = .ok loader ∧
        loader.build = .error .misplacedItem := by
  refine ⟨⟨?_, _, rfl, by decide +kernel⟩, by decide +kernel,
    Setting.forall_iff.mpr (by decide +kernel), _, rfl, by decide +kernel⟩
  rintro ⟨settings, hspells⟩
  have herror : (Setting.severity.last
      [.file (.text "[diagnostics]\nlinked_rule_severity = \x7b\x7d")]).toSeverity =
        .error .unsuitable := by decide +kernel
  rw [Setting.Spells, herror] at hspells
  cases hspells

end FanServer.Settings
