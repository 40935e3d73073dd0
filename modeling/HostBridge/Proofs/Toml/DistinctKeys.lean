import HostBridge.Toml.Document
import Mathlib.Data.List.Nodup

/-!
# No key twice

Whatever a document says, no key stands twice in its root table: each way of adding to a table looks
for the key first, and a table that moves to the end is taken out of its old place.
-/
namespace HostBridge.Toml

namespace Table

variable {table : Table} {key : Key} {item : Item}

def names (table : Table) : List String := table.entries.map (·.1.text)

def HasDistinctKeys (table : Table) : Prop := table.names.Nodup

theorem get?_eq_none_iff : table.get? key = none ↔ key.text ∉ table.names := by
  simp [get?, names]

theorem names_append : (table.append key item).names = table.names ++ [key.text] :=
  List.map_append

theorem names_replace : (table.replace key item).names = table.names := by
  refine (List.map_map ..).trans (List.map_congr_left fun entry _ => ?_)
  simp only [Function.comp_apply]
  split <;> rfl

theorem names_erase : (table.erase key).names = table.names.filter (· != key.text) := by
  simp only [names, erase, entries, List.filter_map]
  rfl

theorem hasDistinctKeys_empty (origin : Origin) : (empty origin).HasDistinctKeys := List.nodup_nil

theorem HasDistinctKeys.append (h : table.HasDistinctKeys) (hnew : key.text ∉ table.names) :
    (table.append key item).HasDistinctKeys := by
  rw [HasDistinctKeys, names_append, List.nodup_append]
  refine ⟨h, List.nodup_singleton _, fun name hname other hother => ?_⟩
  rw [List.mem_singleton.mp hother]
  exact ne_of_mem_of_not_mem hname hnew

theorem HasDistinctKeys.replace (h : table.HasDistinctKeys) :
    (table.replace key item).HasDistinctKeys := by
  rwa [HasDistinctKeys, names_replace]

theorem HasDistinctKeys.moveToEnd (h : table.HasDistinctKeys) :
    ((table.erase key).append key item).HasDistinctKeys := by
  refine append ?_ ?_
  · rw [HasDistinctKeys, names_erase]
    exact h.filter _
  · simp [names_erase]

def Keeps (change : Table → Option Table) : Prop :=
  ∀ table table', table.HasDistinctKeys → change table = some table' → table'.HasDistinctKeys

theorem Keeps.foldlM {α : Type} {change : Table → α → Option Table}
    (h : ∀ a, Keeps (change · a)) (changes : List α) : Keeps (changes.foldlM change) := by
  induction changes with
  | nil =>
    rintro table _ htable ⟨⟩
    exact htable
  | cons a rest ih =>
    intro table table' htable hrun
    obtain ⟨next, hnext, hrest⟩ := Option.bind_eq_some_iff.mp hrun
    exact ih next table' (h a table next htable hnext) hrest

theorem Keeps.changeAt {change : Table → Option Table} (h : Keeps change) (way : Origin)
    (path : List Key) : Keeps (changeAt way change path) := by
  intro table table' htable hrun
  cases path with
  | nil => exact h table table' htable hrun
  | cons key path =>
    rw [Table.changeAt] at hrun
    cases hget : table.get? key with
    | none =>
      simp only [hget, Option.bind_eq_bind, Option.bind_eq_some_iff] at hrun
      obtain ⟨child, -, ⟨⟩⟩ := hrun
      exact htable.append (get?_eq_none_iff.mp hget)
    | some item =>
      rw [hget] at hrun
      cases item with
      | value => cases hrun
      | table child =>
        dsimp only at hrun
        split at hrun
        · cases hrun
        · obtain ⟨changed, -, ⟨⟩⟩ := Option.bind_eq_some_iff.mp hrun
          exact htable.replace
      | tables row =>
        obtain ⟨last, -, hlast⟩ := Option.bind_eq_some_iff.mp hrun
        obtain ⟨changed, -, ⟨⟩⟩ := Option.bind_eq_some_iff.mp hlast
        exact htable.replace

theorem keeps_define (path : List Key) (key : Key) (item : Item) :
    Keeps (define path key item) := by
  refine Keeps.changeAt (fun table table' htable hrun => ?_) .dotted path
  split at hrun
  · cases hrun
  split at hrun
  · cases hrun
  · next hnew =>
    cases hrun
    exact htable.append (get?_eq_none_iff.mp (Option.not_isSome_iff_eq_none.mp hnew))

end Table

theorem keeps_fill (pairs : List (List Key × Key × Item)) : Table.Keeps (fill · pairs) :=
  Table.Keeps.foldlM (fun (path, key, item) => Table.keeps_define path key item) pairs

theorem Section.keeps_insertInto (s : Section) : Table.Keeps s.insertInto := by
  intro table table' htable hrun
  unfold Section.insertInto at hrun
  cases hget : table.get? s.key with
  | none =>
    have hnew := Table.get?_eq_none_iff.mp hget
    rw [hget] at hrun
    split at hrun <;> obtain ⟨own, -, ⟨⟩⟩ := Option.bind_eq_some_iff.mp hrun <;>
      exact htable.append hnew
  | some item =>
    rw [hget] at hrun
    split at hrun
    · obtain ⟨own, -, hown⟩ := Option.bind_eq_some_iff.mp hrun
      cases item with
      | value | table => cases hown
      | tables row =>
        cases hown
        exact htable.replace
    · cases item with
      | value | tables => cases hrun
      | table child =>
        obtain ⟨origin, span, before⟩ := child
        cases origin with
        | written | dotted => cases hrun
        | implied =>
          obtain ⟨own, -, ⟨⟩⟩ := Option.bind_eq_some_iff.mp hrun
          exact htable.moveToEnd

theorem hasDistinctKeys_of_parse? {text : String} {table : Table} (h : parse? text = some table) :
    table.HasDistinctKeys := by
  obtain ⟨lines, -, hassemble⟩ := Option.bind_eq_some_iff.mp h
  obtain ⟨root, hroot, hsections⟩ := Option.bind_eq_some_iff.mp hassemble
  refine Table.Keeps.foldlM (fun s => s.keeps_insertInto.changeAt .implied s.path) _ root table ?_
    hsections
  exact keeps_fill _ _ root (Table.hasDistinctKeys_empty .written) hroot

end HostBridge.Toml
