import HostBridge.Proofs.Text.Utf8
import HostBridge.Settings
import Mathlib.Data.List.TakeWhile

/-!
# What a variable configures

A variable of the environment gives a setting its text without the blanks around it, unless there is
nothing else in it, or the bytes are no text; then the setting keeps its default.
-/
namespace HostBridge

structure Trimmed (text core : List Char) : Prop where
  surrounded : ∃ front back, text = front ++ core ++ back ∧ (∀ c ∈ front, isBlank c = true) ∧
    ∀ c ∈ back, isBlank c = true
  first : ∀ c ∈ core.head?, isBlank c = false
  last : ∀ c ∈ core.getLast?, isBlank c = false

section blanks
variable {text core : List Char}

theorem dropWhile_isBlank (h : ∀ c ∈ text.head?, isBlank c = false) :
    text.dropWhile isBlank = text := by
  cases text with
  | nil => rfl
  | cons c rest => rw [List.dropWhile_cons_of_neg (by simp [h c rfl])]

theorem head_dropWhile_isBlank (text : List Char) :
    ∀ c ∈ (text.dropWhile isBlank).head?, isBlank c = false := by
  intro c hc
  have hhead := List.head?_dropWhile_not isBlank text
  rw [Option.mem_def.mp hc] at hhead
  exact hhead

theorem dropWhile_isBlank_append {front : List Char} (hfront : ∀ c ∈ front, isBlank c = true)
    (htext : ∀ c ∈ text.head?, isBlank c = false) : (front ++ text).dropWhile isBlank = text := by
  rw [List.dropWhile_append_of_pos hfront, dropWhile_isBlank htext]

theorem trimmed_trimBlanks (text : List Char) : Trimmed text (trimBlanks text) := by
  have hfront := List.takeWhile_append_dropWhile (p := isBlank) (l := text)
  have hback := List.takeWhile_append_dropWhile (p := isBlank)
    (l := (text.dropWhile isBlank).reverse)
  have hsplit : text.dropWhile isBlank =
      trimBlanks text ++ ((text.dropWhile isBlank).reverse.takeWhile isBlank).reverse := by
    rw [trimBlanks, ← List.reverse_append, hback, List.reverse_reverse]
  constructor
  · refine ⟨text.takeWhile isBlank, ((text.dropWhile isBlank).reverse.takeWhile isBlank).reverse,
      ?_, fun c => List.mem_takeWhile_imp, fun c hc => ?_⟩
    · rw [List.append_assoc, ← hsplit, hfront]
    · exact List.mem_takeWhile_imp (List.mem_reverse.mp hc)
  · intro c hc
    refine head_dropWhile_isBlank text c ?_
    rw [hsplit, List.head?_append, Option.mem_def.mp hc]
    rfl
  · intro c hc
    rw [trimBlanks, List.getLast?_reverse] at hc
    exact head_dropWhile_isBlank _ c hc

theorem Trimmed.eq_trimBlanks (h : Trimmed text core) : core = trimBlanks text := by
  obtain ⟨⟨front, back, rfl, hfront, hback⟩, hfirst, hlast⟩ := h
  have hback' : ∀ c ∈ back.reverse, isBlank c = true := fun c hc => hback c (List.mem_reverse.mp hc)
  have hlast' : ∀ c ∈ core.reverse.head?, isBlank c = false := by
    rwa [List.head?_reverse]
  cases core with
  | nil =>
    have hblank : ∀ c ∈ front ++ [] ++ back, isBlank c = true := by
      intro c hc
      rw [List.append_nil] at hc
      exact (List.mem_append.mp hc).elim (hfront c) (hback c)
    rw [trimBlanks, List.dropWhile_eq_nil_iff.mpr hblank]
    rfl
  | cons c rest =>
    rw [trimBlanks, List.append_assoc, dropWhile_isBlank_append hfront (by simpa using hfirst),
      List.reverse_append, dropWhile_isBlank_append hback' hlast', List.reverse_reverse]

end blanks

namespace Settings

variable {env : Environment} {setting : Setting} {value : String}

def Gives (env : Environment) (setting : Setting) (value : String) : Prop :=
  ∃ text : String, env setting.variableName = some (utf8 text.toList) ∧
    Trimmed text.toList value.toList ∧ value ≠ ""

/-- The variable of a setting gives it this value, or gives it none and this is the default. -/
def Configures (env : Environment) (setting : Setting) (value : String) : Prop :=
  Gives env setting value ∨ (∀ other, ¬Gives env setting other) ∧ value = setting.default

theorem trimmed_toList (text : String) : (trimmed text).toList = trimBlanks text.toList :=
  String.toList_ofList

theorem ofVariable?_eq_some_iff :
    ofVariable? env setting = some value ↔ Gives env setting value := by
  have hread : ofVariable? env setting = some value ↔ ∃ text : String,
      env setting.variableName = some (utf8 text.toList) ∧ trimmed text = value ∧ value ≠ "" := by
    simp only [ofVariable?, Option.bind_eq_bind, Option.bind_eq_some_iff, fromUTF8?_eq_some_iff,
      Option.ite_none_left_eq_some, Option.some.injEq, String.isEmpty_iff]
    constructor
    · rintro ⟨bytes, hbytes, text, rfl, hne, rfl⟩
      exact ⟨text, hbytes, rfl, hne⟩
    · rintro ⟨text, hbytes, rfl, hne⟩
      exact ⟨_, hbytes, text, rfl, hne, rfl⟩
  rw [hread]
  constructor
  · rintro ⟨text, hbytes, rfl, hne⟩
    refine ⟨text, hbytes, ?_, hne⟩
    rw [trimmed_toList]
    exact trimmed_trimBlanks _
  · rintro ⟨text, hbytes, htrimmed, hne⟩
    refine ⟨text, hbytes, String.toList_inj.mp ?_, hne⟩
    rw [trimmed_toList, htrimmed.eq_trimBlanks]

theorem get_set (s : Settings) (a b : Setting) (value : String) :
    (s.set a value).get b = if b = a then value else s.get b := by
  cases a <;> cases b <;> rfl

theorem override_eq (s : Settings) (env : Environment) :
    s.override env = Setting.all.foldl
      (fun s setting => ((ofVariable? env setting).map (s.set setting)).getD s) s := by
  unfold override
  congr 1
  funext s setting
  cases ofVariable? env setting <;> rfl

theorem get_override (s : Settings) (env : Environment) (setting : Setting) :
    (s.override env).get setting = (ofVariable? env setting).getD (s.get setting) := by
  have hstep (s : Settings) (a : Setting) :
      (((ofVariable? env a).map (s.set a)).getD s).get setting =
        if setting = a then (ofVariable? env a).getD (s.get setting) else s.get setting := by
    cases ofVariable? env a with
    | none => simp
    | some text => exact get_set ..
  simp only [override_eq, Setting.all, List.foldl_cons, List.foldl_nil, hstep]
  cases setting <;> simp

theorem configures_iff :
    Configures env setting value ↔ (ofEnvironment env).get setting = value := by
  have hdefault : standard.get setting = setting.default := by cases setting <;> rfl
  simp only [Configures, ← ofVariable?_eq_some_iff, ofEnvironment, get_override, hdefault]
  cases ofVariable? env setting with
  | none => simp [eq_comm]
  | some text => simp

end Settings

end HostBridge
