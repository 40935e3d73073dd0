import HostBridge.Log.Filter
import HostBridge.Proofs.Text.Utf8

/-!
# Cutting directives

The places in a directive are counted without the blanks in front of it and then used with them. So
they can be inside a character, and exactly then the directive is cut there. Without such blanks
every place is between two characters, and so it is when all characters are one byte long.
-/
namespace HostBridge.Log

def Uncut {α : Type} (x : Except DirectiveFault α) : Prop := ∀ e, x ≠ .error (.cut e)

section uncut
variable {α β : Type} {x : Except DirectiveFault α} {f : α → Except DirectiveFault β}

theorem uncut_ok (a : α) : Uncut (.ok a : Except DirectiveFault α) := fun _ h => by cases h

theorem uncut_pure (a : α) : Uncut (pure a : Except DirectiveFault α) := uncut_ok a

theorem uncut_refuse (e : DirectiveError) : Uncut (Directive.refuse e : Except DirectiveFault α) :=
  fun _ h => by cases h

theorem uncut_bind_iff : Uncut (x >>= f) ↔ Uncut x ∧ ∀ a, x = .ok a → Uncut (f a) := by
  cases x with
  | error fault =>
    constructor
    · exact fun h => ⟨fun e he => h e (by cases he; rfl), fun _ ha => by cases ha⟩
    · exact fun h e he => h.1 e (by cases he; rfl)
  | ok a =>
    constructor
    · exact fun h => ⟨uncut_ok a, fun _ ha => by cases ha; exact h⟩
    · exact fun h => h.2 a rfl

theorem uncut_bind_pure_iff {g : α → β} : Uncut (x >>= fun a => pure (g a)) ↔ Uncut x := by
  rw [uncut_bind_iff]
  exact and_iff_left fun _ _ => uncut_pure _

theorem uncut_map_iff {g : α → β} : Uncut (x.map g) ↔ Uncut x := by
  cases x with
  | error fault => exact ⟨fun h e he => h e (by cases he; rfl), fun h e he => h e (by cases he; rfl)⟩
  | ok a => exact iff_of_true (uncut_ok _) (uncut_ok _)

theorem uncut_mapError_iff {y : Except CutError α} :
    Uncut (y.mapError .cut : Except DirectiveFault α) ↔ ∃ a, y = .ok a := by
  cases y with
  | error e => exact iff_of_false (fun h => h e rfl) (by rintro ⟨_, ⟨⟩⟩)
  | ok a => exact iff_of_true (uncut_ok a) ⟨a, rfl⟩

end uncut

namespace Directive

variable {isMark : Char → Bool} {cursor : Cursor} {skipped rest : List Char} {mark : Char}

structure Marked (isMark : Char → Bool) (text skipped : List Char) (mark : Char)
    (rest : List Char) : Prop where
  split : text = skipped ++ mark :: rest
  skipped : ∀ c ∈ skipped, isMark c = false
  mark : isMark mark = true

theorem nextMark?_eq_none (h : ∀ c ∈ cursor.rest, isMark c = false) :
    nextMark? isMark cursor = none := by
  have htake : cursor.rest.takeWhile (!isMark ·) = cursor.rest :=
    List.takeWhile_eq_self_iff.mpr fun c hc => by simp [h c hc]
  rw [nextMark?, htake, List.drop_length]

theorem Marked.takeWhile_eq {text : List Char} (h : Marked isMark text skipped mark rest) :
    text.takeWhile (!isMark ·) = skipped := by
  have hinside : ∀ c ∈ skipped, (!isMark c) = true := fun c hc => by simp [h.skipped c hc]
  rw [h.split, List.takeWhile_append_of_pos hinside]
  simp [h.mark]

theorem Marked.nextMark?_eq (h : Marked isMark cursor.rest skipped mark rest) :
    nextMark? isMark cursor = some (cursor.offset + byteCount skipped, mark,
      ⟨cursor.offset + byteCount skipped + mark.utf8Size, rest⟩) := by
  simp only [nextMark?, h.takeWhile_eq]
  rw [h.split, List.drop_left]

theorem marked_cases (isMark : Char → Bool) (text : List Char) :
    (∀ c ∈ text, isMark c = false) ∨
      ∃ skipped mark rest, Marked isMark text skipped mark rest := by
  induction text with
  | nil => exact .inl (by simp)
  | cons c text ih =>
    cases hc : isMark c with
    | true => exact .inr ⟨[], c, text, rfl, by simp, hc⟩
    | false =>
      rcases ih with hnone | ⟨skipped, mark, rest, rfl, hskipped, hmark⟩
      · exact .inl (by simpa [hc] using hnone)
      · exact .inr ⟨c :: skipped, mark, rest, rfl, by simpa [hc] using hskipped, hmark⟩

theorem not_marked {text : List Char} (h : ∀ c ∈ text, isMark c = false) :
    ¬ Marked isMark text skipped mark rest := by
  intro hm
  have hno := h mark (by simp [hm.split])
  rw [hm.mark] at hno
  cases hno

theorem Marked.unique {text skipped' rest' : List Char} {mark' : Char}
    (h : Marked isMark text skipped mark rest) (h' : Marked isMark text skipped' mark' rest') :
    skipped' = skipped ∧ mark' = mark ∧ rest' = rest := by
  have hskipped : skipped' = skipped := h'.takeWhile_eq.symm.trans h.takeWhile_eq
  subst hskipped
  have hrest := List.append_cancel_left (h'.split.symm.trans h.split)
  exact ⟨rfl, (List.cons.inj hrest).1, (List.cons.inj hrest).2⟩

def isTargetEnd (c : Char) : Bool := c == '=' || c == '['

def isSpanEnd (c : Char) : Bool := c == ']' || c == '\x7b'

def isFieldEnd (c : Char) : Bool := c == '\x7d'

structure IsName (name : List Char) : Prop where
  begins : ∃ c ∈ name.head?, beginsTarget c = true
  ends : ∀ c ∈ name, isTargetEnd c = false

/-- Where the field behind an opening brace is cut out, and the level behind the field if that can
be read. -/
inductive FieldPlace (part : List Char) (cursor : Cursor) : Nat → Prop
  | first {field rest : List Char} : Marked isFieldEnd cursor.rest field '\x7d' rest →
      FieldPlace part cursor cursor.offset
  | last {field rest : List Char} : Marked isFieldEnd cursor.rest field '\x7d' rest →
      FieldPlace part cursor (cursor.offset + byteCount field)
  | level {field level text : List Char} {found : FieldMatch} :
      Marked isFieldEnd cursor.rest field '\x7d' (']' :: '=' :: level) →
      textBetween part cursor.offset (cursor.offset + byteCount field) = .ok text → text ≠ [] →
      FieldMatch.ofChars text = .ok found →
      FieldPlace part cursor (cursor.offset + byteCount field + 3)

inductive SpanPlace (part : List Char) (cursor : Cursor) : Nat → Prop
  | first {name rest : List Char} {mark : Char} : Marked isSpanEnd cursor.rest name mark rest →
      SpanPlace part cursor cursor.offset
  | last {name rest : List Char} {mark : Char} : Marked isSpanEnd cursor.rest name mark rest →
      SpanPlace part cursor (cursor.offset + byteCount name)
  | level {name level : List Char} : Marked isSpanEnd cursor.rest name ']' ('=' :: level) →
      SpanPlace part cursor (cursor.offset + byteCount name + 2)
  | field {name rest : List Char} {place : Nat} : Marked isSpanEnd cursor.rest name '\x7b' rest →
      FieldPlace part ⟨cursor.offset + byteCount name + 1, rest⟩ place →
      SpanPlace part cursor place

/-- The places at which a part is cut, counted as the reader counts them. -/
inductive Place (part : List Char) : Nat → Prop
  | target {target rest : List Char} {mark : Char} : IsName target →
      Marked isTargetEnd (trimBlanks part) target mark rest → Place part (byteCount target)
  | level {target level : List Char} : IsName target →
      Marked isTargetEnd (trimBlanks part) target '=' level → Place part (byteCount target + 1)
  | named {target rest : List Char} {place : Nat} : IsName target →
      Marked isTargetEnd (trimBlanks part) target '[' rest →
      SpanPlace part ⟨byteCount target + 1, rest⟩ place → Place part place
  | bare {rest : List Char} {place : Nat} : trimBlanks part = '[' :: rest →
      SpanPlace part ⟨1, rest⟩ place → Place part place

/-- No place at which the part is cut is inside a character. -/
def IsCuttable (part : List Char) : Prop := ∀ place, Place part place → ¬ IsInside part place

variable {part : List Char}

theorem uncut_textBetween_iff {first last : Nat} : Uncut (textBetween part first last) ↔
    ¬ IsInside part first ∧ ¬ IsInside part last :=
  uncut_mapError_iff.trans exists_piece_iff

theorem uncut_levelFrom_iff {place : Nat} :
    Uncut (levelFrom part place) ↔ ¬ IsInside part place := by
  rw [levelFrom, uncut_bind_iff, uncut_mapError_iff, exists_pieceFrom_iff]
  refine and_iff_left fun text _ => ?_
  split
  · exact uncut_ok _
  · split
    · exact uncut_ok _
    · exact uncut_refuse _

theorem uncut_levelAfter_iff : Uncut (levelAfter part cursor) ↔
    ∀ level, cursor.rest = '=' :: level → ¬ IsInside part (cursor.offset + 1) := by
  unfold levelAfter
  split
  · next hrest =>
    exact iff_of_true (uncut_ok _) fun _ hlevel => by cases hrest.symm.trans hlevel
  · next rest hrest =>
    rw [uncut_levelFrom_iff]
    exact ⟨fun h _ _ => h, fun h => h rest hrest⟩
  · next _ hother =>
    exact iff_of_true (uncut_refuse _) fun level hlevel => absurd hlevel (hother level)

theorem exists_textBetween {first last : Nat} (h : Uncut (textBetween part first last)) :
    ∃ text, textBetween part first last = .ok text := by
  obtain ⟨text, htext⟩ := uncut_mapError_iff.mp h
  exact ⟨text, by rw [textBetween, htext]; rfl⟩

theorem uncut_textBetween_bind_iff {α : Type} {first last : Nat} {P : Prop}
    {f : List Char → Except DirectiveFault α} (hf : ∀ text, Uncut (f text) ↔ P) :
    Uncut (textBetween part first last >>= f) ↔
      (¬ IsInside part first ∧ ¬ IsInside part last) ∧ P := by
  rw [uncut_bind_iff, uncut_textBetween_iff]
  refine and_congr_right fun hends => ?_
  obtain ⟨text, htext⟩ := exists_textBetween (uncut_textBetween_iff.mpr hends)
  exact ⟨fun h => (hf text).mp (h text htext), fun hP text _ => (hf text).mpr hP⟩

theorem fieldAt_eq {place : Nat} {after : Cursor} {text : List Char}
    (hmark : nextMark? isFieldEnd cursor = some (place, mark, after))
    (htext : textBetween part cursor.offset place = .ok text) : fieldAt part cursor =
      if text.isEmpty then refuse .badDirective
      else match FieldMatch.ofChars text with
        | .error e => refuse (.badField e)
        | .ok field => match after.rest with
          | ']' :: rest => .ok (field, ⟨after.offset + 1, rest⟩)
          | _ => refuse .badDirective := by
  have hmark : nextMark? (· == '\x7d') cursor = some (place, mark, after) := hmark
  unfold fieldAt
  rw [hmark]
  simp only [htext]
  cases hempty : text.isEmpty with
  | true =>
    simp only [bind, Except.bind, hempty, if_true]
    rfl
  | false =>
    simp only [bind, Except.bind, hempty, Bool.false_eq_true, if_false]
    cases FieldMatch.ofChars text <;> rfl

theorem uncut_fieldAt_iff {field : List Char}
    (hmarked : Marked isFieldEnd cursor.rest field '\x7d' rest) : Uncut (fieldAt part cursor) ↔
      Uncut (textBetween part cursor.offset (cursor.offset + byteCount field)) := by
  have hnext := hmarked.nextMark?_eq
  cases htext : textBetween part cursor.offset (cursor.offset + byteCount field) with
  | error fault =>
    have hfault : fieldAt part cursor = .error fault := by
      have hmark : nextMark? (· == '\x7d') cursor = _ := hnext
      unfold fieldAt
      rw [hmark]
      simp only [htext]
      rfl
    rw [hfault]
    exact ⟨fun h e he => h e (by cases he; rfl), fun h e he => h e (by cases he; rfl)⟩
  | ok text =>
    refine iff_of_true ?_ (uncut_ok _)
    rw [fieldAt_eq hnext htext]
    split
    · exact uncut_refuse _
    · split
      · exact uncut_refuse _
      · split
        · exact uncut_ok _
        · exact uncut_refuse _

theorem fieldAt_eq_ok_iff {field text : List Char} {found : FieldMatch} {after : Cursor}
    (hmarked : Marked isFieldEnd cursor.rest field '\x7d' rest)
    (htext : textBetween part cursor.offset (cursor.offset + byteCount field) = .ok text) :
    fieldAt part cursor = .ok (found, after) ↔ text ≠ [] ∧ FieldMatch.ofChars text = .ok found ∧
      ∃ behind, rest = ']' :: behind ∧ after = ⟨cursor.offset + byteCount field + 2, behind⟩ := by
  have hsize : ('\x7d' : Char).utf8Size = 1 := rfl
  rw [fieldAt_eq hmarked.nextMark?_eq htext]
  split
  · next hempty => exact iff_of_false (by rintro ⟨⟩) fun h => h.1 (List.isEmpty_iff.mp hempty)
  · next hfilled =>
    have hfilled : text ≠ [] := fun hempty => hfilled (List.isEmpty_iff.mpr hempty)
    cases hfound : FieldMatch.ofChars text with
    | error e => exact iff_of_false (by rintro ⟨⟩) (by rintro ⟨-, ⟨⟩, -⟩)
    | ok value =>
      dsimp only
      split
      · next behind =>
        constructor
        · rintro ⟨⟩
          exact ⟨hfilled, rfl, behind, rfl, rfl⟩
        · rintro ⟨-, ⟨⟩, _, hbehind, rfl⟩
          cases hbehind
          rfl
      · next hother =>
        exact iff_of_false (by rintro ⟨⟩) (by rintro ⟨-, -, behind, rfl, -⟩; exact hother behind rfl)

theorem uncut_field_and_level_iff {α : Type} {g : FieldMatch → Threshold → α} :
    Uncut (fieldAt part cursor >>= fun found =>
      levelAfter part found.2 >>= fun threshold => pure (g found.1 threshold)) ↔
        ∀ place, FieldPlace part cursor place → ¬ IsInside part place := by
  rw [uncut_bind_iff]
  rcases marked_cases isFieldEnd cursor.rest with hnone | ⟨field, mark, rest, hmarked⟩
  · have hrefused : fieldAt part cursor = refuse .badDirective := by
      have hno : nextMark? (· == '\x7d') cursor = none := nextMark?_eq_none hnone
      rw [fieldAt, hno]
    rw [hrefused]
    refine iff_of_true ⟨uncut_refuse _, fun _ h => by cases h⟩ fun place hplace => ?_
    cases hplace with
    | first hm | last hm | level hm => exact absurd hm (not_marked hnone)
  · obtain rfl : mark = '\x7d' := eq_of_beq hmarked.mark
    rw [uncut_fieldAt_iff hmarked]
    constructor
    · rintro ⟨htext, hlevel⟩ place hplace
      have hends := uncut_textBetween_iff.mp htext
      cases hplace with
      | first => exact hends.1
      | last hm =>
        obtain ⟨rfl, -, -⟩ := hmarked.unique hm
        exact hends.2
      | @level _ level text found hm hread hfilled hfound =>
        obtain ⟨rfl, -, rfl⟩ := hmarked.unique hm
        have hok := (fieldAt_eq_ok_iff hmarked hread).mpr ⟨hfilled, hfound, _, rfl, rfl⟩
        exact uncut_levelAfter_iff.mp (uncut_bind_pure_iff.mp (hlevel _ hok)) level rfl
    · -- The level is looked for only if the field can be read and the bracket closes behind it.
      intro h
      have htext := uncut_textBetween_iff.mpr ⟨h _ (.first hmarked), h _ (.last hmarked)⟩
      refine ⟨htext, fun (found, after) hok => ?_⟩
      obtain ⟨text, hread⟩ := exists_textBetween htext
      obtain ⟨hfilled, hfound, behind, rfl, rfl⟩ := (fieldAt_eq_ok_iff hmarked hread).mp hok
      refine uncut_bind_pure_iff.mpr (uncut_levelAfter_iff.mpr ?_)
      rintro level rfl
      exact h _ (.level hmarked hread hfilled hfound)

theorem uncut_bracketed_iff (target : Option String) : Uncut (bracketed part target cursor) ↔
    ∀ place, SpanPlace part cursor place → ¬ IsInside part place := by
  rcases marked_cases isSpanEnd cursor.rest with hnone | ⟨name, mark, rest, hmarked⟩
  · have hrefused : bracketed part target cursor = refuse .badDirective := by
      have hno : nextMark? (fun c => c == ']' || c == '\x7b') cursor = none :=
        nextMark?_eq_none hnone
      rw [bracketed, hno]
    rw [hrefused]
    refine iff_of_true (uncut_refuse _) fun place hplace => ?_
    cases hplace with
    | first hm | last hm | level hm | field hm => exact absurd hm (not_marked hnone)
  · have hnext : nextMark? (fun c => c == ']' || c == '\x7b') cursor = _ := hmarked.nextMark?_eq
    unfold bracketed
    rw [hnext]
    dsimp only
    have hmark : mark = ']' ∨ mark = '\x7b' := by simpa [isSpanEnd] using hmarked.mark
    rcases hmark with rfl | rfl
    · simp only [if_true]
      rw [uncut_textBetween_bind_iff fun _ => uncut_bind_pure_iff.trans uncut_levelAfter_iff]
      constructor
      · rintro ⟨⟨hfirst, hlast⟩, hlevel⟩ place hplace
        cases hplace with
        | first => exact hfirst
        | last hm =>
          obtain ⟨rfl, -, -⟩ := hmarked.unique hm
          exact hlast
        | @level _ level hm =>
          obtain ⟨rfl, -, rfl⟩ := hmarked.unique hm
          exact hlevel level rfl
        | field hm => cases (hmarked.unique hm).2.1
      · intro h
        refine ⟨⟨h _ (.first hmarked), h _ (.last hmarked)⟩, ?_⟩
        rintro level rfl
        exact h _ (.level hmarked)
    · let spanning (text : List Char) (found : FieldMatch) (threshold : Threshold) : Directive :=
        ⟨target, if (String.ofList text).isEmpty then none else some (String.ofList text),
          some found, threshold⟩
      simp only [show ('\x7b' : Char) = ']' ↔ False by decide, if_false,
        show ('\x7b' : Char).utf8Size = 1 from rfl]
      rw [uncut_textBetween_bind_iff fun text => uncut_field_and_level_iff (g := spanning text)]
      constructor
      · rintro ⟨⟨hfirst, hlast⟩, hfield⟩ place hplace
        cases hplace with
        | first => exact hfirst
        | last hm =>
          obtain ⟨rfl, -, -⟩ := hmarked.unique hm
          exact hlast
        | level hm => cases (hmarked.unique hm).2.1
        | field hm hplace =>
          obtain ⟨rfl, -, rfl⟩ := hmarked.unique hm
          exact hfield place hplace
      · intro h
        exact ⟨⟨h _ (.first hmarked), h _ (.last hmarked)⟩, fun place hplace =>
          h place (.field hmarked hplace)⟩

theorem IsName.ne_nil {name : List Char} (h : IsName name) : name ≠ [] := by
  rintro rfl
  obtain ⟨c, hc, -⟩ := h.begins
  cases hc

theorem isTargetEnd_of_beginsTarget {c : Char} (h : beginsTarget c = true) :
    isTargetEnd c = false := by
  by_contra hend
  have hcases : c = '=' ∨ c = '[' := by simpa [isTargetEnd, or_iff_not_imp_left] using hend
  rcases hcases with rfl | rfl <;> revert h <;> decide +kernel

theorem ofChars_eq {first : Char} {rest : List Char} (htrim : trimBlanks part = first :: rest)
    (hfirst : first ≠ '[') : ofChars part =
      if !beginsTarget first then refuse .badDirective
      else match nextMark? isTargetEnd ⟨0, first :: rest⟩ with
        | none => .ok (ofWord part)
        | some (place, mark, after) =>
          textBetween part 0 place >>= fun text =>
            if mark = '=' then (levelFrom part after.offset).map
              fun threshold => ⟨some (String.ofList text), none, none, threshold⟩
            else bracketed part (some (String.ofList text)) after := by
  unfold ofChars
  rw [htrim]
  split
  · next hnil => cases hnil
  · next hbracket => exact absurd (List.cons.inj hbracket).1 hfirst
  · next hcons =>
    obtain ⟨rfl, rfl⟩ := List.cons.inj hcons
    cases hbegins : beginsTarget first with
    | false =>
      simp only [Bool.not_false, if_true]
      rfl
    | true =>
      simp only [Bool.not_true, Bool.false_eq_true, if_false]
      rfl

theorem IsName.beginsTarget {target behind : List Char} {first : Char} (h : IsName target)
    (hmarked : Marked isMark (first :: rest) target mark behind) : beginsTarget first = true := by
  obtain ⟨c, hc, hbegins⟩ := h.begins
  cases target with
  | nil => cases hc
  | cons x more =>
    cases hc
    rw [(List.cons.inj hmarked.split).1]
    exact hbegins

theorem Marked.isName {target behind : List Char} {first : Char} (hbegins : beginsTarget first = true)
    (h : Marked isTargetEnd (first :: rest) target mark behind) : IsName target := by
  refine ⟨?_, h.skipped⟩
  cases target with
  | nil =>
    have hend := h.mark
    rw [← (List.cons.inj h.split).1, isTargetEnd_of_beginsTarget hbegins] at hend
    cases hend
  | cons x more => exact ⟨x, rfl, (List.cons.inj h.split).1 ▸ hbegins⟩

theorem Place.begins {first : Char} {place : Nat} (h : Place part place)
    (htrim : trimBlanks part = first :: rest) :
    first = '[' ∧ SpanPlace part ⟨1, rest⟩ place ∨ beginsTarget first = true ∧
      ∃ target mark behind, Marked isTargetEnd (first :: rest) target mark behind := by
  cases h with
  | target hname hm | level hname hm | named hname hm =>
    rw [htrim] at hm
    exact .inr ⟨hname.beginsTarget hm, _, _, _, hm⟩
  | bare hbare hplace =>
    cases htrim.symm.trans hbare
    exact .inl ⟨rfl, hplace⟩

theorem uncut_ofChars_of_marked {target behind : List Char} {first : Char}
    (htrim : trimBlanks part = first :: rest) (hbegins : Directive.beginsTarget first = true)
    (hmarked : Marked isTargetEnd (first :: rest) target mark behind) :
    Uncut (ofChars part) ↔ IsCuttable part := by
  have hfirst : first ≠ '[' := by
    rintro rfl
    cases isTargetEnd_of_beginsTarget hbegins
  have hname := hmarked.isName hbegins
  have hstart : Marked isTargetEnd (⟨0, first :: rest⟩ : Cursor).rest target mark behind := hmarked
  have hnext := hstart.nextMark?_eq
  rw [Nat.zero_add] at hnext
  have hown : Marked isTargetEnd (trimBlanks part) target mark behind := htrim ▸ hmarked
  have hzero : ¬ IsInside part (byteCount []) := not_isInside_of_prefix List.nil_prefix
  have hbare (behind : List Char) : trimBlanks part ≠ '[' :: behind := fun h =>
    hfirst (List.cons.inj (htrim.symm.trans h)).1
  have hmark : mark = '=' ∨ mark = '[' := by
    simpa [isTargetEnd, or_iff_not_imp_left] using hmarked.mark
  rw [ofChars_eq htrim hfirst, hbegins, hnext]
  simp only [Bool.not_true, Bool.false_eq_true, if_false]
  rcases hmark with rfl | rfl
  · simp only [if_true, show '='.utf8Size = 1 from rfl]
    rw [uncut_textBetween_bind_iff fun _ => uncut_map_iff.trans uncut_levelFrom_iff]
    constructor
    · rintro ⟨⟨-, htarget⟩, hlevel⟩ place hplace
      cases hplace with
      | target _ hm =>
        obtain ⟨rfl, -, -⟩ := hown.unique hm
        exact htarget
      | level _ hm =>
        obtain ⟨rfl, -, -⟩ := hown.unique hm
        exact hlevel
      | named _ hm => cases (hown.unique hm).2.1
      | bare h => exact absurd h (hbare _)
    · exact fun h => ⟨⟨hzero, h _ (.target hname hown)⟩, h _ (.level hname hown)⟩
  · simp only [show '[' = '=' ↔ False by decide, if_false, show '['.utf8Size = 1 from rfl]
    rw [uncut_textBetween_bind_iff fun _ => uncut_bracketed_iff _]
    constructor
    · rintro ⟨⟨-, htarget⟩, hspan⟩ place hplace
      cases hplace with
      | target _ hm =>
        obtain ⟨rfl, -, -⟩ := hown.unique hm
        exact htarget
      | level _ hm => cases (hown.unique hm).2.1
      | named _ hm hplace =>
        obtain ⟨rfl, -, rfl⟩ := hown.unique hm
        exact hspan place hplace
      | bare h => exact absurd h (hbare _)
    · exact fun h => ⟨⟨hzero, h _ (.target hname hown)⟩, fun place hplace =>
        h place (.named hname hown hplace)⟩

theorem uncut_ofChars_iff : Uncut (ofChars part) ↔ IsCuttable part := by
  cases htrim : trimBlanks part with
  | nil =>
    have hnone : ofChars part = refuse .badDirective := by rw [ofChars, htrim]
    rw [hnone]
    refine iff_of_true (uncut_refuse _) fun place hplace => ?_
    cases hplace with
    | target _ hm | level _ hm | named _ hm => exact absurd hm (not_marked (by simp [htrim]))
    | bare hbare => cases htrim.symm.trans hbare
  | cons first rest =>
    by_cases hfirst : first = '['
    · subst hfirst
      have hbracket : ofChars part = bracketed part none ⟨1, rest⟩ := by
        rw [ofChars, htrim]
        rfl
      rw [hbracket, uncut_bracketed_iff]
      refine ⟨fun h place hplace => ?_, fun h place hplace => h place (.bare htrim hplace)⟩
      rcases hplace.begins htrim with ⟨-, hspan⟩ | ⟨hbegins, -⟩
      · exact h place hspan
      · cases isTargetEnd_of_beginsTarget hbegins
    · cases hbegins : beginsTarget first with
      | false =>
        rw [ofChars_eq htrim hfirst, hbegins]
        refine iff_of_true (uncut_refuse _) fun place hplace => ?_
        rcases hplace.begins htrim with ⟨hbare, -⟩ | ⟨hyes, -⟩
        · exact absurd hbare hfirst
        · cases hbegins.symm.trans hyes
      | true =>
        rcases marked_cases isTargetEnd (first :: rest) with hnone | ⟨_, _, _, hmarked⟩
        · rw [ofChars_eq htrim hfirst, hbegins, nextMark?_eq_none hnone]
          refine iff_of_true (uncut_ok _) fun place hplace => ?_
          rcases hplace.begins htrim with ⟨hbare, -⟩ | ⟨-, _, _, _, hmarked⟩
          · exact absurd hbare hfirst
          · exact absurd hmarked (not_marked hnone)
        · exact uncut_ofChars_of_marked htrim hbegins hmarked

def Stands (text : List Char) (cursor : Cursor) : Prop :=
  ∃ front, text = front ++ cursor.rest ∧ cursor.offset = byteCount front

theorem Stands.passes {text : List Char} {place : Nat} (h : Stands text cursor)
    (skipped : List Char) (hskipped : skipped <+: cursor.rest)
    (hplace : place = cursor.offset + byteCount skipped) :
    ∃ front, front <+: text ∧ byteCount front = place := by
  obtain ⟨front, hsplit, hoffset⟩ := h
  obtain ⟨behind, hbehind⟩ := hskipped
  refine ⟨front ++ skipped, ⟨behind, ?_⟩, ?_⟩
  · rw [List.append_assoc, hbehind, hsplit]
  · rw [byteCount_append, hplace, hoffset]

theorem Stands.next {text skipped : List Char} (h : Stands text cursor)
    (hrest : cursor.rest = skipped ++ rest) :
    Stands text ⟨cursor.offset + byteCount skipped, rest⟩ := by
  obtain ⟨front, hsplit, hoffset⟩ := h
  exact ⟨front ++ skipped, by rw [List.append_assoc, ← hrest, hsplit], by
    rw [byteCount_append, hoffset]⟩

theorem FieldPlace.passed {text : List Char} {place : Nat} (h : FieldPlace part cursor place)
    (hstands : Stands text cursor) : ∃ front, front <+: text ∧ byteCount front = place := by
  cases h with
  | first => exact hstands.passes [] List.nil_prefix rfl
  | last hm => exact hstands.passes _ ⟨_, hm.split.symm⟩ rfl
  | @level field level _ _ hm =>
    refine hstands.passes (field ++ ['\x7d', ']', '=']) ⟨level, ?_⟩ ?_
    · rw [hm.split]; simp
    · rw [byteCount_append]; rfl

theorem SpanPlace.passed {text : List Char} {place : Nat} (h : SpanPlace part cursor place)
    (hstands : Stands text cursor) : ∃ front, front <+: text ∧ byteCount front = place := by
  cases h with
  | first => exact hstands.passes [] List.nil_prefix rfl
  | last hm => exact hstands.passes _ ⟨_, hm.split.symm⟩ rfl
  | @level name level hm =>
    refine hstands.passes (name ++ [']', '=']) ⟨level, ?_⟩ ?_
    · rw [hm.split]; simp
    · rw [byteCount_append]; rfl
  | @field name rest _ hm hplace =>
    have hrest : cursor.rest = (name ++ ['\x7b']) ++ rest := by
      rw [hm.split, List.append_assoc]
      rfl
    have hinner := hstands.next hrest
    rw [byteCount_append] at hinner
    exact hplace.passed hinner

theorem Place.passed {place : Nat} (h : Place part place) :
    ∃ front, front <+: trimBlanks part ∧ byteCount front = place := by
  have hstart : Stands (trimBlanks part) ⟨0, trimBlanks part⟩ := ⟨[], rfl, rfl⟩
  cases h with
  | target _ hm => exact ⟨_, ⟨_, hm.split.symm⟩, rfl⟩
  | @level target level _ hm =>
    exact ⟨target ++ ['='], ⟨level, by rw [hm.split]; simp⟩, by rw [byteCount_append]; rfl⟩
  | @named target rest _ _ hm hplace =>
    refine hplace.passed ⟨target ++ ['['], ?_, ?_⟩
    · rw [hm.split]; simp
    · rw [byteCount_append]; rfl
  | bare htrim hplace => exact hplace.passed ⟨['['], htrim, rfl⟩

theorem isCuttable_of_no_blank (h : ∀ c ∈ part.head?, isBlank c = false) : IsCuttable part := by
  intro place hplace
  obtain ⟨front, hfront, rfl⟩ := hplace.passed
  exact not_isInside_of_prefix (hfront.trans (trimBlanks_isPrefix h))

theorem isCuttable_of_narrow (h : ∀ c ∈ part, c.utf8Size = 1) : IsCuttable part :=
  fun place _ => not_isInside_of_narrow h place

end Directive
end HostBridge.Log
