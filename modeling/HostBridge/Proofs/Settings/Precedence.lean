import HostBridge.Proofs.Settings.Configured
import HostBridge.Proofs.Toml.DistinctKeys

/-!
# Where a setting comes from

For each setting by itself, its variable comes before the document and the document before the
default. A document counts as a whole: it is refused if any of its entries is no setting or no text.
-/
namespace HostBridge

namespace Setting

variable {setting : Setting} {key : String}

theorem ofKey?_eq_some_iff : ofKey? key = some setting ↔ key = setting.key := by
  constructor
  · intro h
    have hkey : setting.key = key := by simpa using List.find?_some h
    exact hkey.symm
  · rintro rfl
    cases setting <;> rfl

theorem ofKey?_eq_none_iff : ofKey? key = none ↔ ∀ setting : Setting, key ≠ setting.key := by
  simp only [Option.eq_none_iff_forall_ne_some, ne_eq, ofKey?_eq_some_iff]

theorem key_injective {a b : Setting} (h : a.key = b.key) : a = b :=
  Option.some.inj ((ofKey?_eq_some_iff.mpr rfl).symm.trans (ofKey?_eq_some_iff.mpr h))

end Setting

namespace Settings

variable {document : String} {env : Environment} {s s' : Settings} {setting : Setting}
  {value : String}

theorem ext_get (h : ∀ setting, s.get setting = s'.get setting) : s = s' := by
  obtain ⟨device, filter, name⟩ := s
  obtain ⟨device', filter', name'⟩ := s'
  rw [Settings.mk.injEq]
  exact ⟨h .entropyDevice, h .logFilter, h .loopName⟩

theorem get_standard (setting : Setting) : standard.get setting = setting.default := by
  cases setting <;> rfl

/-- A layer over a value: what the layer gives counts, and the value below it if it gives none. -/
def Layered (gives : String → Prop) (below value : String) : Prop :=
  gives value ∨ (∀ other, ¬gives other) ∧ value = below

theorem Layered.over {first second : String → Prop} {below middle : String}
    (h : Layered first below middle) (h' : Layered second middle value) :
    Layered (fun text => first text ∨ second text) below value := by
  rcases h' with hgiven | ⟨hno, rfl⟩
  · exact .inl (.inr hgiven)
  · rcases h with hgiven | ⟨hno', rfl⟩
    · exact .inl (.inl hgiven)
    · exact .inr ⟨fun other hother => hother.elim (hno' other) (hno other), rfl⟩

theorem layered_override (s : Settings) (env : Environment) (setting : Setting) :
    Layered (Gives env setting) (s.get setting) ((s.override env).get setting) := by
  simp only [Layered, ← ofVariable?_eq_some_iff, get_override]
  cases ofVariable? env setting <;> simp

theorem Gives.unique {other : String} (h : Gives env setting value)
    (hother : Gives env setting other) : other = value :=
  Option.some.inj ((ofVariable?_eq_some_iff.mpr hother).symm.trans (ofVariable?_eq_some_iff.mpr h))

section entries
variable {entry : Toml.Key × Toml.Item} {entries : List (Toml.Key × Toml.Item)}

def Sets (entry : Toml.Key × Toml.Item) (setting : Setting) (value : String) : Prop :=
  entry.1.text = setting.key ∧ ∃ span, entry.2 = .value (.string value) span

theorem Sets.unique {other : Setting} {text : String} (h : Sets entry setting value)
    (hother : Sets entry other text) : other = setting ∧ text = value := by
  obtain ⟨hkey, span, hvalue⟩ := h
  obtain ⟨hkey', span', htext⟩ := hother
  cases hvalue.symm.trans htext
  exact ⟨Setting.key_injective (hkey'.symm.trans hkey), rfl⟩

theorem textOf_eq_ok_iff {item : Toml.Item} :
    SettingsError.textOf item = .ok value ↔ ∃ span, item = .value (.string value) span := by
  cases item with
  | value content span => cases content <;> simp [SettingsError.textOf]
  | table | tables => simp [SettingsError.textOf]

theorem applyEntry_eq_ok_iff : applyEntry document s entry = .ok s' ↔
    ∃ setting value, Sets entry setting value ∧ s.set setting value = s' := by
  unfold applyEntry
  cases hkey : Setting.ofKey? entry.1.text with
  | none =>
    have hno := Setting.ofKey?_eq_none_iff.mp hkey
    simp [Sets, hno]
  | some found =>
    have hfound := Setting.ofKey?_eq_some_iff.mp hkey
    simp only [Sets, ← textOf_eq_ok_iff]
    cases SettingsError.textOf entry.2 with
    | error complaint => simp
    | ok text =>
      constructor
      · intro h
        exact ⟨found, text, ⟨hfound, rfl⟩, Except.ok.inj h⟩
      · rintro ⟨other, _, ⟨hother, ⟨⟩⟩, rfl⟩
        cases Setting.key_injective (hfound.symm.trans hother)
        rfl

theorem layered_applyEntry (h : applyEntry document s entry = .ok s') (setting : Setting) :
    Layered (Sets entry setting) (s.get setting) (s'.get setting) := by
  obtain ⟨own, text, hsets, rfl⟩ := applyEntry_eq_ok_iff.mp h
  rw [get_set]
  split
  · next hown =>
    rw [hown]
    exact .inl hsets
  · next hown => exact .inr ⟨fun other hother => hown (hsets.unique hother).1, rfl⟩

theorem exists_foldlM_applyEntry_iff : (∃ s', entries.foldlM (applyEntry document) s = .ok s') ↔
    ∀ entry ∈ entries, ∃ setting value, Sets entry setting value := by
  induction entries generalizing s with
  | nil => simp [pure, Except.pure]
  | cons entry rest ih =>
    rw [List.foldlM_cons, List.forall_mem_cons]
    cases hstep : applyEntry document s entry with
    | ok next =>
      obtain ⟨setting, value, hsets, -⟩ := applyEntry_eq_ok_iff.mp hstep
      exact ih.trans ⟨fun h => ⟨⟨setting, value, hsets⟩, h⟩, And.right⟩
    | error e =>
      refine ⟨fun ⟨_, h⟩ => (by cases h), fun ⟨⟨setting, value, hsets⟩, _⟩ => ?_⟩
      rw [applyEntry_eq_ok_iff.mpr ⟨setting, value, hsets, rfl⟩] at hstep
      cases hstep

theorem layered_foldlM_applyEntry (h : entries.foldlM (applyEntry document) s = .ok s')
    (setting : Setting) : Layered (fun value => ∃ entry ∈ entries, Sets entry setting value)
      (s.get setting) (s'.get setting) := by
  induction entries generalizing s with
  | nil =>
    cases h
    exact .inr ⟨by simp, rfl⟩
  | cons entry rest ih =>
    rw [List.foldlM_cons] at h
    cases hstep : applyEntry document s entry with
    | error e =>
      rw [hstep] at h
      cases h
    | ok next =>
      rw [hstep] at h
      simp only [List.exists_mem_cons_iff]
      exact (layered_applyEntry hstep setting).over (ih h)

end entries

def Says (document : String) (setting : Setting) (value : String) : Prop :=
  ∃ table, Toml.parse? document = some table ∧ ∃ entry ∈ table.entries, Sets entry setting value

theorem Says.unique {other : String} (h : Says document setting value)
    (hother : Says document setting other) : other = value := by
  obtain ⟨table, hread, entry, hmem, hsets⟩ := h
  obtain ⟨_, hread', entry', hmem', hsets'⟩ := hother
  cases hread.symm.trans hread'
  have hentry : entry = entry' := List.inj_on_of_nodup_map (Toml.hasDistinctKeys_of_parse? hread)
    hmem hmem' (hsets.1.trans hsets'.1.symm)
  rw [← hentry] at hsets'
  exact (hsets.unique hsets').2

inductive Faulty (document : String) : Prop
  | notToml (unread : Toml.parse? document = none)
  | unknownKey (table : Toml.Table) (read : Toml.parse? document = some table)
      (entry : Toml.Key × Toml.Item) (mem : entry ∈ table.entries)
      (unknown : ∀ setting : Setting, entry.1.text ≠ setting.key)
  | notText (table : Toml.Table) (read : Toml.parse? document = some table)
      (entry : Toml.Key × Toml.Item) (mem : entry ∈ table.entries) (setting : Setting)
      (known : entry.1.text = setting.key)
      (other : ∀ value span, entry.2 ≠ .value (.string value) span)

def IsSound (document : String) : Prop := ∃ table, Toml.parse? document = some table ∧
  ∀ entry ∈ table.entries, ∃ setting value, Sets entry setting value

theorem exists_parse_iff : (∃ s, parse document = .ok s) ↔ IsSound document := by
  unfold parse IsSound
  cases Toml.parse? document with
  | none => simp
  | some table => simp [exists_foldlM_applyEntry_iff]

theorem faulty_iff : Faulty document ↔ ¬IsSound document := by
  constructor
  · rintro h ⟨table, hread, hall⟩
    cases h with
    | notToml hunread => cases hread.symm.trans hunread
    | unknownKey _ hread' entry hmem hunknown =>
      cases hread.symm.trans hread'
      obtain ⟨setting, value, hkey, -⟩ := hall entry hmem
      exact hunknown setting hkey
    | notText _ hread' entry hmem setting hkey hother =>
      cases hread.symm.trans hread'
      obtain ⟨_, value, -, span, hvalue⟩ := hall entry hmem
      exact hother value span hvalue
  · intro h
    cases hread : Toml.parse? document with
    | none => exact .notToml hread
    | some table =>
      have hsome : ∃ entry ∈ table.entries, ¬∃ setting value, Sets entry setting value := by
        by_contra hnone
        push Not at hnone
        exact h ⟨table, hread, hnone⟩
      obtain ⟨entry, hmem, hno⟩ := hsome
      by_cases hkey : ∃ setting : Setting, entry.1.text = setting.key
      · obtain ⟨setting, hkey⟩ := hkey
        exact .notText table hread entry hmem setting hkey
          fun value span hvalue => hno ⟨setting, value, hkey, span, hvalue⟩
      · exact .unknownKey table hread entry hmem (not_exists.mp hkey)

theorem exists_parse_error_iff : (∃ e, parse document = .error e) ↔ Faulty document := by
  rw [faulty_iff, ← exists_parse_iff]
  cases parse document <;> simp

theorem layered_parse (h : parse document = .ok s) (setting : Setting) :
    Layered (Says document setting) setting.default (s.get setting) := by
  unfold parse at h
  cases hread : Toml.parse? document with
  | none =>
    rw [hread] at h
    cases h
  | some table =>
    rw [hread] at h
    have hdocument : Says document setting =
        fun value => ∃ entry ∈ table.entries, Sets entry setting value := by
      simp [funext_iff, Says, hread]
    rw [hdocument, ← get_standard]
    exact layered_foldlM_applyEntry h setting

inductive Resolves (document : String) (env : Environment) (setting : Setting) : String → Prop
  | fromVariable {value : String} (given : Gives env setting value) :
      Resolves document env setting value
  | fromDocument {value : String} (unset : ∀ other, ¬Gives env setting other)
      (said : Says document setting value) : Resolves document env setting value
  | byDefault (unset : ∀ other, ¬Gives env setting other)
      (unsaid : ∀ other, ¬Says document setting other) :
      Resolves document env setting setting.default

theorem Resolves.unique {other : String} (h : Resolves document env setting value)
    (hother : Resolves document env setting other) : other = value := by
  cases h with
  | fromVariable hgiven =>
    cases hother with
    | fromVariable hgiven' => exact hgiven.unique hgiven'
    | fromDocument hunset | byDefault hunset => exact absurd hgiven (hunset value)
  | fromDocument hunset hsaid =>
    cases hother with
    | fromVariable hgiven => exact absurd hgiven (hunset other)
    | fromDocument _ hsaid' => exact hsaid.unique hsaid'
    | byDefault _ hunsaid => exact absurd hsaid (hunsaid value)
  | byDefault hunset hunsaid =>
    cases hother with
    | fromVariable hgiven => exact absurd hgiven (hunset other)
    | fromDocument _ hsaid => exact absurd hsaid (hunsaid other)
    | byDefault => rfl

theorem resolves_override (h : parse document = .ok s) (env : Environment) (setting : Setting) :
    Resolves document env setting ((s.override env).get setting) := by
  rcases layered_override s env setting with hgiven | ⟨hunset, hbelow⟩
  · exact .fromVariable hgiven
  · rw [hbelow]
    rcases layered_parse h setting with hsaid | ⟨hunsaid, hdefault⟩
    · exact .fromDocument hunset hsaid
    · rw [hdefault]
      exact .byDefault hunset hunsaid

/-- What a document and an environment make of the settings: none if something is wrong with the
document. A setting depends on its own variable only, and what that gives does not depend on what
was there before. The environment alone counts as over an empty document. -/
structure LayersLaw (document : String) (env : Environment) : Prop where
  resolved : ∀ s, parse document = .ok s → ∀ setting value,
    (s.override env).get setting = value ↔ Resolves document env setting value
  refused : (∃ e, parse document = .error e) ↔ Faulty document
  separate : ∀ (other : Environment) (setting : Setting),
    other setting.variableName = env setting.variableName →
      ∀ s : Settings, (s.override other).get setting = (s.override env).get setting
  idempotent : ∀ s : Settings, (s.override env).override env = s.override env
  overridden : ∀ (s : Settings) (setting : Setting) (value : String), Gives env setting value →
    (s.override env).get setting = value
  alone : (parse "").map (·.override env) = .ok (ofEnvironment env)

theorem variable_before_document_before_default (document : String) (env : Environment) :
    LayersLaw document env where
  resolved s h setting value := by
    constructor
    · rintro rfl
      exact resolves_override h env setting
    · intro hvalue
      exact hvalue.unique (resolves_override h env setting)
  refused := exists_parse_error_iff
  separate other setting hsame s := by
    have hvariable : ofVariable? other setting = ofVariable? env setting := by
      rw [ofVariable?, ofVariable?, hsame]
    rw [get_override, get_override, hvariable]
  idempotent s := by
    refine ext_get fun setting => ?_
    rw [get_override, get_override]
    cases ofVariable? env setting <;> rfl
  overridden s setting value h := by
    rw [get_override, ofVariable?_eq_some_iff.mpr h]
    rfl
  alone := by
    have hempty : parse "" = .ok standard := by
      decide +kernel
    rw [hempty]
    rfl

def mixedEnvironment : Environment := fun name =>
  if name = Setting.loopName.variableName then some (utf8 " env ".toList)
  else if name = Setting.logFilter.variableName then some (utf8 "  ".toList)
  else if name = Setting.entropyDevice.variableName then some [0xff]
  else none

theorem variable_before_document_before_default_in_turn :
    let document := "log_filter = \"debug\"\nloop_name = \"file\"\n"
    Resolves document mixedEnvironment .loopName "env" ∧
      Resolves document mixedEnvironment .logFilter "debug" ∧
      Resolves document mixedEnvironment .entropyDevice "/dev/urandom" := by
  intro document
  have hparse : parse document = .ok ⟨"/dev/urandom", "debug", "file"⟩ := by decide +kernel
  have hlaw := (variable_before_document_before_default document mixedEnvironment).resolved _ hparse
  exact ⟨(hlaw ..).mp (by decide +kernel), (hlaw ..).mp (by decide +kernel),
    (hlaw ..).mp (by decide +kernel)⟩

end Settings
end HostBridge
