import FanServer.Settings.Loader
import Mathlib.Data.List.Find
import Mathlib.Data.List.Nodup
import Mathlib.Data.List.Perm.Basic

/-!
# What the settings come to

A layer is laid over the layers below it. What it does to the four settings can be told from the
values that it gives to each of them:

* `Setting.givenBy` — the values that a field of a file gives to a setting;
* `Value.lay` — a value laid over another one. A table is merged into what is there key by key,
  anything else replaces it;
* `Value.Alike` — what a conversion can tell apart: of a table only its keys, of a list nothing;
* `Holds` — **the invariant of layering**: each setting is in its table, and looks like the values
  that were given to it, laid over each other. A field of a file keeps it (`Holds.place_field`), and
  so do a file (`Holds.mergeFile`) and overrides (`Holds.applyOverrides`);
* `Holds.ofValue_eq` — what is built from a value depends on these values only.
-/

namespace FanServer.Settings

/-! ## Settings -/

/-- One of the settings. -/
inductive Setting where
  /-- the severity of the report on a rule that has an action method -/
  | severity
  /-- the wording of that report -/
  | message
  /-- whether a syntax error is reported -/
  | report
  /-- which log lines are written -/
  | level
  deriving DecidableEq, Repr

namespace Setting

/-- All settings. -/
def all : List Setting :=
  [severity, message, report, level]

/-- The table that the setting belongs to. -/
def group : Setting → String
  | level => "logging"
  | _ => "diagnostics"

/-- The key of the setting in its table. -/
def name : Setting → String
  | severity => "linked_rule_severity"
  | message => "linked_rule_message"
  | report => "report_parse_errors"
  | level => "level"

/-- The key of the setting in an override. -/
def key (setting : Setting) : String :=
  setting.group ++ "." ++ setting.name

/-- The tables that settings belong to. -/
def groups : List String :=
  ["diagnostics", "logging"]

/-- The path to the setting. -/
def path (setting : Setting) : List Step :=
  [.key setting.group, .key setting.name]

/-- The value of the setting in the defaults. -/
def default (setting : Setting) : Value :=
  (((defaults.get? setting.group).getD .nil).get? setting.name).getD .nil

/-- The value converts to what the setting is in `settings`. -/
def Spells (setting : Setting) (value : Value) (settings : Settings) : Prop :=
  match setting with
  | severity => value.toSeverity = .ok settings.diagnostics.linkedRuleSeverity
  | message => value.toText = .ok settings.diagnostics.linkedRuleMessage
  | report => value.toTruth = .ok settings.diagnostics.reportSyntaxErrors
  | level => value.toText = .ok settings.level

instance (setting : Setting) (value : Value) (settings : Settings) :
    Decidable (setting.Spells value settings) :=
  match setting with
  | severity => inferInstanceAs (Decidable (value.toSeverity = _))
  | message => inferInstanceAs (Decidable (value.toText = _))
  | report => inferInstanceAs (Decidable (value.toTruth = _))
  | level => inferInstanceAs (Decidable (value.toText = _))

/-- The value converts to the type of the setting. -/
def Converts (setting : Setting) (value : Value) : Prop :=
  ∃ settings, setting.Spells value settings

theorem forall_iff {p : Setting → Prop} :
    (∀ setting, p setting) ↔ p severity ∧ p message ∧ p report ∧ p level := by
  refine ⟨fun h => ⟨h severity, h message, h report, h level⟩, ?_⟩
  rintro ⟨hseverity, hmessage, hreport, hlevel⟩ (_ | _ | _ | _)
  · exact hseverity
  · exact hmessage
  · exact hreport
  · exact hlevel

theorem mem_all (setting : Setting) : setting ∈ all := by
  cases setting <;> decide

theorem lowerCase_group (setting : Setting) : Text.lowerCase setting.group = setting.group := by
  cases setting <;> decide +kernel

theorem lowerCase_name (setting : Setting) : Text.lowerCase setting.name = setting.name := by
  cases setting <;> decide +kernel

theorem path?_key (setting : Setting) : Step.path? setting.key = some setting.path := by
  cases setting <;> decide +kernel

theorem mem_groups_iff {text : String} :
    text ∈ groups ↔ ∃ setting : Setting, text = setting.group := by
  refine ⟨?_, ?_⟩
  · intro h
    rcases List.mem_cons.mp h with rfl | h
    · exact ⟨severity, rfl⟩
    · exact ⟨level, List.mem_singleton.mp h⟩
  · rintro ⟨setting, rfl⟩
    cases setting <;> simp [groups, group]

theorem name_injective : Function.Injective name := by
  intro setting setting' h
  cases setting <;> cases setting' <;> first | rfl | exact absurd h (by decide)

theorem path_injective : Function.Injective path := by
  intro setting setting' h
  simp only [path, List.cons.injEq, Step.key.injEq] at h
  exact name_injective h.2.1

end Setting

/-! ## Values that are given -/

/-- The path that a key of the outermost table of a file spells. -/
def fieldPath (key : String) : List Step :=
  (Step.path? key).getD [.key key]

/-- A value at the end of a path, within tables and lists that have nothing else. -/
def nest : List Step → Value → Value
  | [], value => value
  | .key name :: path, value => .table [(name, nest path value)]
  | .item index :: path, value => .list (List.replicate index.toNat .nil ++ [nest path value])

namespace Value

/-- The value is a table. -/
def isTable : Value → Bool
  | table _ => true
  | _ => false

/-- The keys of a table. -/
def keys (value : Value) : List String :=
  value.fields.map Prod.fst

/-- The values of a key in a table, whatever the case of its letters. -/
def given (value : Value) (name : String) : List Value :=
  value.fields.filterMap fun field =>
    if Text.lowerCase field.1 = name then some field.2 else none

/-- Lay a value over another one. -/
def lay (old : Value) : Value → Value
  | table fields => old.mergeFields fields
  | new => new

end Value

/-- The values that a field of the outermost table of a file gives to the setting. -/
def Setting.givenBy (setting : Setting) (field : String × Value) : List Value :=
  match fieldPath field.1 with
  | .key group :: path =>
    if Text.lowerCase group = setting.group then (nest path field.2).given setting.name else []
  | _ => []

/-- The values that overrides give to the setting. -/
def Setting.overriddenBy (setting : Setting) (overrides : List (Setting × Value)) : List Value :=
  overrides.filterMap fun override => if override.1 = setting then some override.2 else none

@[simp]
theorem Setting.overriddenBy_nil (setting : Setting) : setting.overriddenBy [] = [] := rfl

theorem Setting.overriddenBy_append (setting : Setting)
    (overrides overrides' : List (Setting × Value)) :
    setting.overriddenBy (overrides ++ overrides') =
      setting.overriddenBy overrides ++ setting.overriddenBy overrides' :=
  List.filterMap_append

theorem Setting.overriddenBy_cons (setting : Setting) (override : Setting × Value)
    (overrides : List (Setting × Value)) :
    setting.overriddenBy (override :: overrides) =
      (if override.1 = setting then [override.2] else []) ++ setting.overriddenBy overrides := by
  by_cases hsame : override.1 = setting
  · simp [overriddenBy, hsame]
  · simp [overriddenBy, hsame]

/-! ## Tables -/

namespace Value

theorem isTable_iff {value : Value} : value.isTable = true ↔ ∃ fields, value = .table fields := by
  cases value <;> simp [isTable]

@[simp]
theorem fields_table (fields : List (String × Value)) : (table fields).fields = fields := rfl

theorem keys_eq_nil {value : Value} (h : value.isTable = false) : value.keys = [] := by
  cases value with
  | table fields => cases h
  | _ => rfl

theorem lay_eq {value : Value} (h : value.isTable = false) (old : Value) :
    old.lay value = value := by
  cases value with
  | table fields => cases h
  | _ => rfl

theorem isSome_get? {value : Value} {key : String} :
    (value.get? key).isSome = true ↔ key ∈ value.keys := by
  simp [get?, keys]

/-- A field whose value is changed is still found, and the others are as they were. -/
theorem find?_changed (fields : List (String × Value)) (key name : String) (new : Value) :
    ((fields.map fun field => if field.1 == key then (key, new) else field).find? fun field =>
        field.1 == name) =
      (fields.find? fun field => field.1 == name).map fun field =>
        if field.1 == key then (key, new) else field := by
  rw [List.find?_map]
  congr 1
  apply List.find?_congr
  intro field _
  by_cases hkey : field.1 = key
  · simp [hkey]
  · simp [hkey]

/-- Putting a value in place changes that key alone. -/
theorem get?_put (base : Value) (key name : String) (new : Value) :
    (base.put key new).get? name = if name = key then some new else base.get? name := by
  unfold put
  split_ifs with hsome hname hname
  · obtain ⟨value, hvalue⟩ := Option.isSome_iff_exists.mp hsome
    obtain ⟨field, hfind, -⟩ := Option.map_eq_some_iff.mp hvalue
    have hkey := List.find?_some hfind
    rw [get?, fields_table, find?_changed, hname, hfind, Option.map_some, Option.map_some,
      if_pos hkey]
  · rw [get?, fields_table, find?_changed, get?, Option.map_map]
    apply Option.map_congr
    intro field hfield
    have hfound := List.find?_some hfield
    have hkey : ¬ (field.1 == key) = true := by
      rw [beq_iff_eq.mp hfound, beq_iff_eq]
      exact hname
    rw [Function.comp_apply, if_neg hkey]
  · have hnone : base.fields.find? (fun field => field.1 == key) = none := by
      rwa [get?, Option.isSome_map, Option.not_isSome_iff_eq_none] at hsome
    simp [get?, hname, List.find?_append, hnone]
  · simp [get?, List.find?_append, Ne.symm hname]

/-- What is put into becomes a table. -/
theorem isTable_put (base : Value) (key : String) (new : Value) :
    (base.put key new).isTable = true := by
  unfold put
  split_ifs <;> rfl

theorem keys_put (base : Value) (key : String) (new : Value) :
    (base.put key new).keys = if key ∈ base.keys then base.keys else base.keys ++ [key] := by
  unfold put
  simp only [isSome_get?]
  split_ifs with hmem
  · simp only [keys, fields_table, List.map_map]
    apply List.map_congr_left
    intro field _
    by_cases hkey : field.1 = key
    · simp [hkey]
    · simp [hkey]
  · simp [keys]

theorem mem_keys_put {base : Value} {key name : String} {new : Value} :
    name ∈ (base.put key new).keys ↔ name ∈ base.keys ∨ name = key := by
  rw [keys_put]
  split_ifs with hmem
  · exact ⟨Or.inl, fun h => h.elim id fun heq => heq ▸ hmem⟩
  · simp

theorem nodup_keys_put {base : Value} (h : base.keys.Nodup) (key : String) (new : Value) :
    (base.put key new).keys.Nodup := by
  rw [keys_put]
  split_ifs with hmem
  · exact h
  · rw [← List.concat_eq_append]
    exact h.concat hmem

/-- To set a key is to lay the value over what is there. -/
theorem set_eq (base : Value) (key : String) (value : Value) :
    base.set key value = base.put key (((base.get? key).getD (.table [])).lay value) := by
  cases value <;> simp [set, lay]

theorem isTable_mergeFields (base : Value) (incoming : List (String × Value)) :
    (base.mergeFields incoming).isTable = (base.isTable || !incoming.isEmpty) := by
  induction incoming generalizing base with
  | nil => simp [mergeFields]
  | cons field incoming ih => simp [mergeFields, set_eq, ih, isTable_put]

/-- Fields add their keys, in lower case, to those that are there. -/
theorem mem_keys_mergeFields {base : Value} {incoming : List (String × Value)} {name : String} :
    name ∈ (base.mergeFields incoming).keys ↔
      name ∈ base.keys ∨ name ∈ (incoming.map Prod.fst).map Text.lowerCase := by
  induction incoming generalizing base with
  | nil => simp [mergeFields]
  | cons field incoming ih =>
    rw [mergeFields, ih, set_eq, mem_keys_put, List.map_cons, List.map_cons, List.mem_cons,
      or_assoc]

theorem nodup_keys_mergeFields {base : Value} (h : base.keys.Nodup)
    (incoming : List (String × Value)) : (base.mergeFields incoming).keys.Nodup := by
  induction incoming generalizing base with
  | nil => simpa [mergeFields] using h
  | cons field incoming ih =>
    rw [mergeFields, set_eq]
    exact ih (nodup_keys_put h _ _)

/-- **Fields laid over a table** lay the values of a key over the one that it has. -/
theorem get?_mergeFields {base value : Value} {name : String} (h : base.get? name = some value)
    (incoming : List (String × Value)) :
    (base.mergeFields incoming).get? name =
      some (((Value.table incoming).given name).foldl lay value) := by
  induction incoming generalizing base value with
  | nil => simpa [mergeFields, given, fields] using h
  | cons field incoming ih =>
    obtain ⟨key, new⟩ := field
    rw [mergeFields]
    by_cases hkey : Text.lowerCase key = name
    · have hset : (base.set (Text.lowerCase key) new).get? name = some (value.lay new) := by
        simp [set_eq, get?_put, hkey, h]
      rw [ih hset]
      simp [given, fields, hkey]
    · have hset : (base.set (Text.lowerCase key) new).get? name = some value := by
        simp [set_eq, get?_put, Ne.symm hkey, h]
      rw [ih hset]
      simp [given, fields, hkey]

/-! ## Values that look alike -/

/-- **The values look alike to every conversion**: they are tables with the same keys, each of them
once, or both are lists, or they are the same. -/
inductive Alike : Value → Value → Prop where
  /-- the same value -/
  | same {value : Value} (h : value.isTable = false) : Alike value value
  /-- two lists -/
  | list (items items' : List Value) : Alike (.list items) (.list items')
  /-- two tables with the same keys -/
  | table {fields fields' : List (String × Value)} (hnodup : (Value.table fields).keys.Nodup)
      (hkeys : (Value.table fields).keys.Perm (Value.table fields').keys) :
      Alike (.table fields) (.table fields')

namespace Alike

variable {value value' value'' : Value}

theorem keys_perm (h : Alike value value') : value.keys.Perm value'.keys := by
  cases h with
  | same h => exact .refl _
  | list items items' => exact .refl _
  | table hnodup hkeys => exact hkeys

theorem keys_nodup (h : Alike value value') : value.keys.Nodup := by
  cases h with
  | same h => rw [keys_eq_nil h]; exact .nil
  | list items items' => exact .nil
  | table hnodup hkeys => exact hnodup

theorem isTable_eq (h : Alike value value') : value'.isTable = value.isTable := by
  cases h <;> rfl

theorem of_isTable (htable : value.isTable = true) (htable' : value'.isTable = true)
    (hnodup : value.keys.Nodup) (hkeys : value.keys.Perm value'.keys) : Alike value value' := by
  obtain ⟨fields, rfl⟩ := isTable_iff.mp htable
  obtain ⟨fields', rfl⟩ := isTable_iff.mp htable'
  exact .table hnodup hkeys

theorem symm (h : Alike value value') : Alike value' value := by
  cases h with
  | same h => exact .same h
  | list items items' => exact .list items' items
  | table hnodup hkeys => exact .table (hkeys.nodup_iff.mp hnodup) hkeys.symm

theorem trans (h : Alike value value') (h' : Alike value' value'') : Alike value value'' := by
  cases h with
  | same h => exact h'
  | list items items' =>
    cases h' with
    | same h' => exact .list _ _
    | list _ items'' => exact .list _ _
  | table hnodup hkeys =>
    cases h' with
    | same h' => cases h'
    | table _ hkeys' => exact .table hnodup (hkeys.trans hkeys')

theorem put (h : Alike value value') (key : String) (new new' : Value) :
    Alike (value.put key new) (value'.put key new') := by
  have hnodup := nodup_keys_put h.keys_nodup key new
  have hnodup' := nodup_keys_put h.symm.keys_nodup key new'
  refine of_isTable (isTable_put _ _ _) (isTable_put _ _ _) hnodup ?_
  rw [List.perm_ext_iff_of_nodup hnodup hnodup']
  intro name
  rw [mem_keys_put, mem_keys_put, h.keys_perm.mem_iff]

/-- Of the fields that are laid over a value only the keys matter. -/
theorem mergeFields (h : Alike value value') {incoming incoming' : List (String × Value)}
    (hkeys : (incoming.map Prod.fst).Perm (incoming'.map Prod.fst)) :
    Alike (value.mergeFields incoming) (value'.mergeFields incoming') := by
  cases incoming with
  | nil =>
    have hnil : incoming' = [] := List.map_eq_nil_iff.mp (List.nil_perm.mp hkeys)
    simpa [hnil, Value.mergeFields] using h
  | cons field incoming =>
    cases incoming' with
    | nil => exact absurd hkeys.symm (List.not_perm_nil_cons _ _)
    | cons field' incoming' =>
      have hnodup := nodup_keys_mergeFields h.keys_nodup (field :: incoming)
      have hnodup' := nodup_keys_mergeFields h.symm.keys_nodup (field' :: incoming')
      refine of_isTable (by simp [isTable_mergeFields]) (by simp [isTable_mergeFields]) hnodup ?_
      rw [List.perm_ext_iff_of_nodup hnodup hnodup']
      intro name
      rw [mem_keys_mergeFields, mem_keys_mergeFields, h.keys_perm.mem_iff,
        (hkeys.map Text.lowerCase).mem_iff]

theorem lay (h : Alike value value') (new : Value) : Alike (value.lay new) (value'.lay new) := by
  cases htable : new.isTable with
  | true =>
    obtain ⟨incoming, rfl⟩ := isTable_iff.mp htable
    exact h.mergeFields (.refl _)
  | false =>
    rw [lay_eq htable, lay_eq htable]
    exact .same htable

theorem foldl_lay (h : Alike value value') (given : List Value) :
    Alike (given.foldl Value.lay value) (given.foldl Value.lay value') := by
  induction given generalizing value value' with
  | nil => exact h
  | cons new given ih => exact ih (h.lay new)

theorem toText_eq (h : Alike value value') : value.toText = value'.toText := by
  cases h <;> rfl

theorem toTruth_eq (h : Alike value value') : value.toTruth = value'.toTruth := by
  cases h <;> rfl

/-- The severity in a table is its only key, so it can be told from the keys. -/
theorem toSeverity_eq (h : Alike value value') : value.toSeverity = value'.toSeverity := by
  cases h with
  | same h => rfl
  | list items items' => rfl
  | @table fields fields' hnodup hkeys =>
    have hlength : fields.length = fields'.length := by simpa [keys] using hkeys.length_eq
    rcases fields with _ | ⟨⟨key, new⟩, _ | ⟨second, fields⟩⟩
    · rcases fields' with _ | ⟨field', fields'⟩
      · rfl
      · cases hlength
    · rcases fields' with _ | ⟨⟨key', new'⟩, _ | ⟨second', fields'⟩⟩
      · cases hlength
      · have hkey : key = key' := List.singleton_perm_singleton.mp hkeys
        rw [hkey]
        rfl
      · cases hlength
    · rcases fields' with _ | ⟨field', _ | ⟨second', fields'⟩⟩
      · cases hlength
      · cases hlength
      · rfl

end Alike

end Value

/-! ## Setting the value at the end of a path -/

/-- The step leads to a key, or to an item that has a place in every list. -/
def Step.hasPlace : Step → Bool
  | .key _ => true
  | .item index => decide (0 ≤ index ∧ index < 4294967296)

namespace Value

/-- A value has a place at the end of a path whose indices do. -/
theorem exists_setAt? (base : Value) {path : List Step} (hplaces : ∀ step ∈ path, step.hasPlace)
    (value : Value) : ∃ value', base.setAt? path value = some value' := by
  induction path generalizing base with
  | nil => exact ⟨value, by rw [setAt?]⟩
  | cons step path ih =>
    obtain ⟨hstep, hpath⟩ := List.forall_mem_cons.mp hplaces
    cases step with
    | key name =>
      obtain ⟨inner, hinner⟩ := ih ((base.get? (Text.lowerCase name)).getD nil) hpath
      cases path with
      | nil => exact ⟨_, by rw [setAt?]⟩
      | cons next path => exact ⟨_, by simp [setAt?, hinner]; rfl⟩
    | item index =>
      obtain ⟨hle, hlt⟩ := of_decide_eq_true hstep
      have hplace : place? index base.items.length = some index.toNat := by
        simp [place?, hlt, hle, Int.not_lt.mpr hle]
      obtain ⟨inner, hinner⟩ := ih ((base.items[index.toNat]?).getD nil) hpath
      exact ⟨_, by simp [setAt?, hplace, hinner]; rfl⟩

/-- A path that begins with a key changes that key alone. -/
theorem exists_put_of_setAt? {base value base' : Value} {name : String} {path : List Step}
    (h : base.setAt? (.key name :: path) value = some base') :
    ∃ new, base' = base.put (Text.lowerCase name) new := by
  cases path with
  | nil =>
    rw [setAt?, set_eq] at h
    exact ⟨_, (Option.some.inj h).symm⟩
  | cons next path =>
    rw [setAt?] at h
    · obtain ⟨inner, -, hput⟩ := Option.bind_eq_some_iff.mp h
      exact ⟨inner, (Option.some.inj hput).symm⟩
    · simp

/-- **A value at the end of a path** is laid over what is there as the tables and lists around it
would be. -/
theorem exists_setAt?_alike (base : Value) (name : String) {path : List Step}
    (hplaces : ∀ step ∈ path, step.hasPlace) (value : Value) :
    ∃ new, base.setAt? (.key name :: path) value = some (base.put (Text.lowerCase name) new) ∧
      ∀ old old', base.get? (Text.lowerCase name) = some old → old.Alike old' →
        new.Alike (old'.lay (nest path value)) := by
  cases path with
  | nil =>
    refine ⟨_, by rw [setAt?, set_eq], ?_⟩
    intro old old' hget halike
    rw [hget, Option.getD_some]
    exact halike.lay value
  | cons step path =>
    obtain ⟨new, hnew⟩ :=
      exists_setAt? ((base.get? (Text.lowerCase name)).getD nil) hplaces value
    refine ⟨new, ?_, ?_⟩
    · rw [setAt?, hnew]
      · rfl
      · simp
    · intro old old' hget halike
      rw [hget, Option.getD_some] at hnew
      cases step with
      | key next =>
        obtain ⟨inner, rfl⟩ := exists_put_of_setAt? hnew
        rw [nest, lay, mergeFields, mergeFields, set_eq]
        exact halike.put _ _ _
      | item index =>
        rw [setAt?] at hnew
        obtain ⟨place, -, hplace⟩ := Option.bind_eq_some_iff.mp hnew
        obtain ⟨inner, -, hlist⟩ := Option.bind_eq_some_iff.mp hplace
        obtain rfl := Option.some.inj hlist
        exact .list _ _

end Value

/-! ## Laying layers over the defaults -/

/-- Where the field of a file names one of the tables that settings belong to, it has a table. -/
def keepsTables (field : String × Value) : Bool :=
  match fieldPath field.1 with
  | .key name :: path =>
    !Setting.groups.contains (Text.lowerCase name) || (nest path field.2).isTable
  | _ => true

/-- The indices in the key of a field have a place in every list. -/
def hasPlaces (field : String × Value) : Bool :=
  (fieldPath field.1).all Step.hasPlace

/-- The settings that values spell, one for each setting. -/
def convert (values : Setting → Value) : Except LoadError Settings := do
  let severity ← (values .severity).toSeverity
  let message ← (values .message).toText
  let report ← (values .report).toTruth
  let level ← (values .level).toText
  return ⟨⟨severity, message, report⟩, level⟩

/-- **The invariant of layering**: each setting is in its table, and looks like the value that it
has come to so far. -/
def Holds (base : Value) (values : Setting → Value) : Prop :=
  ∀ setting : Setting, ∃ fields value, base.get? setting.group = some (.table fields) ∧
    (Value.table fields).get? setting.name = some value ∧ value.Alike (values setting)

section Holds

variable {base : Value} {values : Setting → Value}

theorem holds_defaults : Holds defaults Setting.default := by
  intro setting
  cases setting <;> exact ⟨_, _, rfl, rfl, .same rfl⟩

theorem Holds.congr (h : Holds base values) {values' : Setting → Value}
    (hvalues : ∀ setting, (values setting).Alike (values' setting)) : Holds base values' := by
  intro setting
  obtain ⟨fields, value, hgroup, hname, halike⟩ := h setting
  exact ⟨fields, value, hgroup, hname, halike.trans (hvalues setting)⟩

theorem Holds.put_of_ne (h : Holds base values) {key : String}
    (hkey : ∀ setting : Setting, setting.group ≠ key) (new : Value) :
    Holds (base.put key new) values := by
  intro setting
  obtain ⟨fields, value, hgroup, hname⟩ := h setting
  refine ⟨fields, value, ?_, hname⟩
  rw [Value.get?_put, if_neg (hkey setting), hgroup]

/-- A table that is laid over the table of a setting is laid over its settings one by one. -/
theorem Holds.set (h : Holds base values) (group : String) (incoming : List (String × Value)) :
    Holds (base.set group (.table incoming)) fun setting =>
      (if group = setting.group then (Value.table incoming).given setting.name else []).foldl
        Value.lay (values setting) := by
  intro setting
  obtain ⟨fields, value, hgroup, hname, halike⟩ := h setting
  by_cases hsame : group = setting.group
  · have htable : ((Value.table fields).mergeFields incoming).isTable = true := by
      rw [Value.isTable_mergeFields]
      rfl
    obtain ⟨fields', hfields⟩ := Value.isTable_iff.mp htable
    refine ⟨fields', ((Value.table incoming).given setting.name).foldl Value.lay value, ?_, ?_, ?_⟩
    · rw [hsame, Value.set_eq, Value.get?_put, if_pos rfl, hgroup, Option.getD_some, Value.lay,
        hfields]
    · rw [← hfields]
      exact Value.get?_mergeFields hname incoming
    · simp only [if_pos hsame]
      exact halike.foldl_lay _
  · refine ⟨fields, value, ?_, hname, ?_⟩
    · rw [Value.set_eq, Value.get?_put, if_neg (Ne.symm hsame), hgroup]
    · simpa [hsame] using halike

/-- A value at the end of a path into the table of a setting is laid over the setting that the path
leads to. -/
theorem Holds.setAt? (h : Holds base values) {group : Setting} {name : String}
    (hgroup : Text.lowerCase name = group.group) (next : String) {path : List Step}
    (hplaces : ∀ step ∈ path, step.hasPlace) (value : Value) :
    ∃ base', base.setAt? (.key name :: .key next :: path) value = some base' ∧
      Holds base' fun setting =>
        (if group.group = setting.group then
          (Value.table [(next, nest path value)]).given setting.name else []).foldl
            Value.lay (values setting) := by
  obtain ⟨fields, -, hfields, -⟩ := h group
  obtain ⟨new, hset, hnew⟩ := Value.exists_setAt?_alike (.table fields) next hplaces value
  obtain ⟨fields', hput⟩ := Value.isTable_iff.mp
    (Value.isTable_put (.table fields) (Text.lowerCase next) new)
  refine ⟨base.put group.group (.table fields'), ?_, ?_⟩
  · rw [Value.setAt?, hgroup, hfields, Option.getD_some, hset, hput]
    · rfl
    · simp
  intro setting
  obtain ⟨fields'', old, hfields'', hname, halike⟩ := h setting
  by_cases hsame : group.group = setting.group
  · rw [← hsame, hfields, Option.some.injEq, Value.table.injEq] at hfields''
    subst hfields''
    by_cases hnext : Text.lowerCase next = setting.name
    · refine ⟨fields', new, ?_, ?_, ?_⟩
      · rw [← hsame, Value.get?_put, if_pos rfl]
      · rw [← hput, Value.get?_put, if_pos hnext.symm]
      · simpa [hsame, hnext, Value.given] using hnew old (values setting) (hnext ▸ hname) halike
    · refine ⟨fields', old, ?_, ?_, ?_⟩
      · rw [← hsame, Value.get?_put, if_pos rfl]
      · rw [← hput, Value.get?_put, if_neg (Ne.symm hnext), hname]
      · simpa [hsame, hnext, Value.given] using halike
  · refine ⟨fields'', old, ?_, hname, ?_⟩
    · rw [Value.get?_put, if_neg (Ne.symm hsame), hfields'']
    · simpa [hsame] using halike

/-- The key of a field begins with the key of a table. -/
theorem exists_fieldPath (key : String) : ∃ name path, fieldPath key = .key name :: path := by
  unfold fieldPath
  cases hpath : Step.path? key with
  | none => exact ⟨key, [], rfl⟩
  | some path =>
    obtain ⟨⟨first, rest⟩, hfirst, hsteps⟩ := Option.bind_eq_some_iff.mp hpath
    obtain ⟨steps, -, hcons⟩ := Option.bind_eq_some_iff.mp hsteps
    obtain rfl := Option.some.inj hcons
    unfold Step.key? at hfirst
    dsimp only at hfirst
    split_ifs at hfirst
    obtain ⟨rfl, -⟩ := Prod.mk.inj (Option.some.inj hfirst)
    exact ⟨_, steps, rfl⟩

/-- **A field is laid over the settings** that it gives values to. -/
theorem Holds.place_field (h : Holds base values) {field : String × Value}
    (htable : keepsTables field = true) (hplaces : hasPlaces field = true) :
    ∃ base', place base (fieldPath field.1) field.2 = .ok base' ∧
      Holds base' fun setting => (setting.givenBy field).foldl Value.lay (values setting) := by
  obtain ⟨name, path, hpath⟩ := exists_fieldPath field.1
  have hgiven : ∀ setting : Setting, setting.givenBy field =
      if Text.lowerCase name = setting.group then (nest path field.2).given setting.name
      else [] := by
    intro setting
    simp only [Setting.givenBy, hpath]
  simp only [keepsTables, hasPlaces, hpath, List.all_eq_true] at htable hplaces
  obtain ⟨-, hplaces⟩ := List.forall_mem_cons.mp hplaces
  simp only [hgiven, hpath, place]
  by_cases hmem : Text.lowerCase name ∈ Setting.groups
  · obtain ⟨group, hgroup⟩ := Setting.mem_groups_iff.mp hmem
    have htable : (nest path field.2).isTable = true := by simpa [hmem] using htable
    rw [hgroup]
    cases path with
    | nil =>
      obtain ⟨incoming, hincoming⟩ := Value.isTable_iff.mp htable
      rw [Value.setAt?, hgroup, show field.2 = .table incoming from hincoming]
      exact ⟨_, rfl, h.set group.group incoming⟩
    | cons step path =>
      cases step with
      | item index => cases htable
      | key next =>
        obtain ⟨-, hplaces⟩ := List.forall_mem_cons.mp hplaces
        obtain ⟨base', hset, hholds⟩ := h.setAt? hgroup next hplaces field.2
        rw [hset]
        exact ⟨base', rfl, hholds⟩
  · have hforeign : ∀ setting : Setting, Text.lowerCase name ≠ setting.group :=
      fun setting heq => hmem (Setting.mem_groups_iff.mpr ⟨setting, heq⟩)
    obtain ⟨new, hset, -⟩ := Value.exists_setAt?_alike base name hplaces field.2
    rw [hset]
    refine ⟨_, rfl, ?_⟩
    simpa only [hforeign, if_false, List.foldl_nil] using
      h.put_of_ne (fun setting => (hforeign setting).symm) new

theorem Holds.mergeFile (h : Holds base values) {fields : List (String × Value)}
    (htables : ∀ field ∈ fields, keepsTables field) (hplaces : ∀ field ∈ fields, hasPlaces field) :
    ∃ base', Settings.mergeFile base fields = .ok base' ∧
      Holds base' fun setting =>
        (fields.flatMap setting.givenBy).foldl Value.lay (values setting) := by
  induction fields generalizing base values with
  | nil => exact ⟨base, rfl, h⟩
  | cons field fields ih =>
    obtain ⟨htable, htables⟩ := List.forall_mem_cons.mp htables
    obtain ⟨hplace, hplaces⟩ := List.forall_mem_cons.mp hplaces
    obtain ⟨base', hplace, hholds⟩ := h.place_field htable hplace
    obtain ⟨base'', hmerge, hholds'⟩ := ih hholds htables hplaces
    refine ⟨base'', ?_, ?_⟩
    · rw [Settings.mergeFile]
      change (place base (fieldPath field.1) field.2 >>= fun merged =>
        Settings.mergeFile merged fields) = _
      rw [hplace]
      exact hmerge
    · simpa only [List.flatMap_cons, List.foldl_append] using hholds'

/-- **An override is laid over its own setting**, and over no other. -/
theorem Holds.place_override (h : Holds base values) (setting : Setting) (value : Value) :
    ∃ base', place base setting.path value = .ok base' ∧
      Holds base' fun other =>
        (if setting = other then [value] else []).foldl Value.lay (values other) := by
  have hgiven : ∀ other : Setting, (if setting.group = other.group then
      (Value.table [(setting.name, value)]).given other.name else []) =
        if setting = other then [value] else [] := by
    intro other
    by_cases hsame : setting = other
    · simp [hsame, Value.given, other.lowerCase_name]
    · have hname : setting.name ≠ other.name := fun heq => hsame (Setting.name_injective heq)
      simp [hsame, Value.given, setting.lowerCase_name, hname]
  obtain ⟨base', hset, hholds⟩ :=
    h.setAt? setting.lowerCase_group setting.name (List.forall_mem_nil _) value
  refine ⟨base', ?_, ?_⟩
  · rw [place, Setting.path, hset]
  · simpa only [nest, hgiven] using hholds

theorem Holds.applyOverrides (h : Holds base values) (overrides : List (Setting × Value)) :
    ∃ base', Settings.applyOverrides base (overrides.map fun override =>
        (override.1.path, override.2)) = .ok base' ∧
      Holds base' fun setting =>
        (setting.overriddenBy overrides).foldl Value.lay (values setting) := by
  induction overrides generalizing base values with
  | nil => exact ⟨base, rfl, h⟩
  | cons override overrides ih =>
    obtain ⟨setting, value⟩ := override
    obtain ⟨base', hplace, hholds⟩ := h.place_override setting value
    obtain ⟨base'', hothers, hholds'⟩ := ih hholds
    refine ⟨base'', ?_, ?_⟩
    · simp only [List.map_cons, Settings.applyOverrides, hplace, bind, Except.bind, hothers]
    · simpa only [Setting.overriddenBy_cons, List.foldl_append] using hholds'

/-- **Only the values of the settings are converted.** -/
theorem Holds.ofValue_eq (h : Holds base values) : ofValue base = convert values := by
  obtain ⟨fields, severity, hdiagnostics, hseverity, hseverityAlike⟩ := h .severity
  obtain ⟨fields', message, hdiagnostics', hmessage, hmessageAlike⟩ := h .message
  obtain ⟨fields'', report, hdiagnostics'', hreport, hreportAlike⟩ := h .report
  obtain ⟨logging, level, hlogging, hlevel, hlevelAlike⟩ := h .level
  simp only [Setting.group, Setting.name] at *
  rw [hdiagnostics, Option.some.injEq, Value.table.injEq] at hdiagnostics' hdiagnostics''
  subst hdiagnostics' hdiagnostics''
  simp [ofValue, convert, hdiagnostics, hlogging, diagnosticsOf, levelOf, Value.part?, hseverity,
    hmessage, hreport, hlevel, hseverityAlike.toSeverity_eq, hmessageAlike.toText_eq,
    hreportAlike.toTruth_eq, hlevelAlike.toText_eq]

end Holds

/-! ## Conversion -/

/-- There are settings exactly if all the values convert to what they are. -/
theorem convert_eq_ok_iff {values : Setting → Value} {settings : Settings} :
    convert values = .ok settings ↔
      ∀ setting : Setting, setting.Spells (values setting) settings := by
  rw [Setting.forall_iff]
  simp only [convert, Setting.Spells]
  cases (values .severity).toSeverity with
  | error e => simp [bind, Except.bind]
  | ok severity =>
    cases (values .message).toText with
    | error e => simp [bind, Except.bind]
    | ok message =>
      cases (values .report).toTruth with
      | error e => simp [bind, Except.bind]
      | ok report =>
        cases (values .level).toText with
        | error e => simp [bind, Except.bind]
        | ok level =>
          obtain ⟨⟨severity', message', report'⟩, level'⟩ := settings
          simp [bind, Except.bind, pure, Except.pure, and_assoc]

/-- If each value converts, there are settings that all of them spell. -/
theorem exists_spells {values : Setting → Value}
    (h : ∀ setting : Setting, setting.Converts (values setting)) :
    ∃ settings, ∀ setting : Setting, setting.Spells (values setting) settings := by
  obtain ⟨severity, hseverity⟩ := h .severity
  obtain ⟨message, hmessage⟩ := h .message
  obtain ⟨report, hreport⟩ := h .report
  obtain ⟨level, hlevel⟩ := h .level
  exact ⟨⟨⟨severity.diagnostics.linkedRuleSeverity, message.diagnostics.linkedRuleMessage,
    report.diagnostics.reportSyntaxErrors⟩, level.level⟩,
    Setting.forall_iff.mpr ⟨hseverity, hmessage, hreport, hlevel⟩⟩

theorem exists_convert_eq_error_iff {values : Setting → Value} :
    (∃ e, convert values = .error e) ↔
      ∃ setting : Setting, ¬ setting.Converts (values setting) := by
  refine ⟨?_, ?_⟩
  · rintro ⟨e, he⟩
    by_contra hall
    push Not at hall
    obtain ⟨settings, hspells⟩ := exists_spells hall
    rw [convert_eq_ok_iff.mpr hspells] at he
    cases he
  · rintro ⟨setting, hnot⟩
    cases hresult : convert values with
    | error e => exact ⟨e, rfl⟩
    | ok settings => exact absurd ⟨settings, convert_eq_ok_iff.mp hresult setting⟩ hnot

end FanServer.Settings
