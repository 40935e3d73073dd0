import HostBridge.Log.Filter
import HostBridge.Proofs.Text.Utf8
import Mathlib.Data.List.Induction
import Mathlib.Data.List.Infix

/-!
# The decisive directive

A filter keeps its directives in order, the longest targets first, and of two for one target the
later. So the first one that concerns a record has the longest of the targets that the record's
target begins with, and is the last one that was given for it.
-/
namespace HostBridge.Log

namespace Directive

structure IsPlain (d : Directive) : Prop where
  span : d.span = none
  field : d.field = none
  named : d.target ≠ some ""

def beginning (d : Directive) : List Char := (d.target.map String.toList).getD []

def breadth : Directive → Directive → Ordering :=
  compareLex (compareOn fun d => d.target.map String.utf8ByteSize) (compareOn fun d => d.target)

instance : Std.TransCmp breadth :=
  inferInstanceAs (Std.TransCmp (compareLex
    (compareOn fun d : Directive => d.target.map String.utf8ByteSize)
    (compareOn fun d : Directive => d.target)))

variable {d e : Directive} {r : Record}

theorem IsPlain.specificity_eq (hd : d.IsPlain) (he : e.IsPlain) :
    d.specificity e = d.breadth e := by
  have hfield : compare (none : Option FieldMatch) none = .eq := rfl
  simp [specificity, hd.span, he.span, hd.field, he.field, breadth, compareLex, compareOn, hfield,
    Ordering.then_eq]

theorem breadth_eq_iff : d.breadth e = .eq ↔ d.target = e.target := by
  simp only [breadth, compareLex, compareOn, Ordering.then_eq_eq, Std.compare_eq_iff_eq]
  exact ⟨fun h => h.2, fun h => ⟨congrArg _ h, h⟩⟩

theorem IsPlain.target_eq (hd : d.IsPlain) (he : e.IsPlain)
    (h : d.beginning = e.beginning) : d.target = e.target := by
  have hne (s : String) (hs : some s ≠ some "") : s.toList ≠ [] := fun hnil =>
    hs (congrArg some (String.toList_eq_nil_iff.mp hnil))
  unfold beginning at h
  cases hdt : d.target with
  | none =>
    cases het : e.target with
    | none => rfl
    | some t =>
      rw [hdt, het] at h
      exact absurd h.symm (hne t (het ▸ he.named))
  | some s =>
    cases het : e.target with
    | none =>
      rw [hdt, het] at h
      exact absurd h (hne s (hdt ▸ hd.named))
    | some t =>
      rw [hdt, het] at h
      exact congrArg some (String.toList_inj.mp h)

theorem IsPlain.concerns_iff (hd : d.IsPlain) :
    d.concerns r = true ↔ d.beginning <+: r.target.toList := by
  unfold concerns beginning
  rw [hd.field]
  cases d.target <;> simp [List.isPrefixOf_iff_prefix]

theorem utf8ByteSize_lt {s t : String} (h : s.toList <+: t.toList) (hne : s.toList ≠ t.toList) :
    s.utf8ByteSize < t.utf8ByteSize := by
  obtain ⟨more, hmore⟩ := h
  cases more with
  | nil => exact absurd (by simpa using hmore) hne
  | cons c more =>
    rw [← length_utf8, ← length_utf8, ← hmore, utf8, utf8, List.flatMap_append, List.length_append,
      List.flatMap_cons, List.length_append, String.length_utf8EncodeChar]
    have hsize := c.utf8Size_pos
    omega

theorem breadth_lt (h : d.beginning <+: e.beginning) (hne : d.beginning ≠ e.beginning) :
    d.breadth e = .lt := by
  have hsize : compare (d.target.map String.utf8ByteSize) (e.target.map String.utf8ByteSize) =
      .lt := by
    unfold beginning at h hne
    cases het : e.target with
    | none =>
      rw [het] at h hne
      exact absurd (List.prefix_nil.mp h) hne
    | some t =>
      cases hdt : d.target with
      | none => rfl
      | some s =>
        rw [hdt, het] at h hne
        exact Nat.compare_eq_lt.mpr (utf8ByteSize_lt h hne)
  simp [breadth, compareLex, compareOn, hsize]

end Directive

namespace Filter

open Directive

variable {d e : Directive} {l ds : List Directive}

/-- The more specific directives come first, and none comes twice. -/
def IsOrdered (l : List Directive) : Prop := l.Pairwise fun d e => d.breadth e = .gt

theorem target_ne_of_gt (h : d.breadth e = .gt) : e.target ≠ d.target := fun heq => by
  rw [breadth_eq_iff.mpr heq.symm] at h
  cases h

theorem mem_insert (hd : d.IsPlain) (hl : ∀ x ∈ l, x.IsPlain) (ho : IsOrdered l) :
    e ∈ insert d l ↔ e = d ∨ e ∈ l ∧ e.target ≠ d.target := by
  induction l with
  | nil => simp [insert]
  | cons x rest ih =>
    obtain ⟨hx, hrest⟩ := List.pairwise_cons.mp ho
    rw [insert, hd.specificity_eq (hl x (by simp))]
    cases hcmp : d.breadth x with
    | eq =>
      -- The new directive takes the place of the one with its target.
      have htarget := breadth_eq_iff.mp hcmp
      have hothers : ∀ y ∈ rest, y.target ≠ d.target := fun y hy =>
        htarget ▸ target_ne_of_gt (hx y hy)
      simp only [List.mem_cons]
      constructor
      · rintro (rfl | he)
        · exact .inl rfl
        · exact .inr ⟨.inr he, hothers e he⟩
      · rintro (rfl | ⟨rfl | he, hne⟩)
        · exact .inl rfl
        · exact absurd htarget.symm hne
        · exact .inr he
    | gt =>
      have hothers : ∀ y ∈ x :: rest, y.target ≠ d.target := fun y hy => by
        rcases List.mem_cons.mp hy with rfl | hy
        · exact target_ne_of_gt hcmp
        · exact target_ne_of_gt (Std.TransCmp.gt_trans hcmp (hx y hy))
      rw [List.mem_cons]
      exact or_congr_right ⟨fun he => ⟨he, hothers e he⟩, fun he => he.1⟩
    | lt =>
      have hne : x.target ≠ d.target := fun heq => by
        rw [breadth_eq_iff.mpr heq.symm] at hcmp
        cases hcmp
      rw [List.mem_cons, ih (fun y hy => hl y (by simp [hy])) hrest, List.mem_cons]
      constructor
      · rintro (rfl | rfl | ⟨he, htarget⟩)
        · exact .inr ⟨.inl rfl, hne⟩
        · exact .inl rfl
        · exact .inr ⟨.inr he, htarget⟩
      · rintro (rfl | ⟨rfl | he, htarget⟩)
        · exact .inr (.inl rfl)
        · exact .inl rfl
        · exact .inr (.inr ⟨he, htarget⟩)

theorem isOrdered_insert (hd : d.IsPlain) (hl : ∀ x ∈ l, x.IsPlain) (ho : IsOrdered l) :
    IsOrdered (insert d l) := by
  induction l with
  | nil => exact List.pairwise_singleton ..
  | cons x rest ih =>
    obtain ⟨hx, hrest⟩ := List.pairwise_cons.mp ho
    have hplain : ∀ y ∈ rest, y.IsPlain := fun y hy => hl y (by simp [hy])
    rw [insert, hd.specificity_eq (hl x (by simp))]
    cases hcmp : d.breadth x with
    | eq =>
      refine List.pairwise_cons.mpr ⟨fun y hy => ?_, hrest⟩
      rw [Std.TransCmp.congr_left hcmp]
      exact hx y hy
    | gt =>
      refine List.pairwise_cons.mpr ⟨fun y hy => ?_, ho⟩
      rcases List.mem_cons.mp hy with rfl | hy
      · exact hcmp
      · exact Std.TransCmp.gt_trans hcmp (hx y hy)
    | lt =>
      refine List.pairwise_cons.mpr ⟨fun y hy => ?_, ih hplain hrest⟩
      rcases (mem_insert hd hplain hrest).mp hy with rfl | ⟨hy, -⟩
      · exact Std.OrientedCmp.gt_iff_lt.mpr hcmp
      · exact hx y hy

def lastFor? (ds : List Directive) (target : Option String) : Option Directive :=
  (ds.filter (·.target = target)).getLast?

theorem lastFor?_concat (target : Option String) : lastFor? (ds ++ [d]) target =
    if d.target = target then some d else lastFor? ds target := by
  unfold lastFor?
  rw [List.filter_append, List.filter_cons, List.filter_nil]
  by_cases h : d.target = target <;> simp [h]

theorem lastFor?_mem {target : Option String} (h : lastFor? ds target = some d) :
    d ∈ ds ∧ d.target = target := by
  have hmem := List.mem_of_getLast? h
  simpa using hmem

theorem sorted_spec (h : ∀ d ∈ ds, d.IsPlain) :
    IsOrdered (sorted ds) ∧ ∀ e, e ∈ sorted ds ↔ lastFor? ds e.target = some e := by
  induction ds using List.reverseRecOn with
  | nil => simp [sorted, IsOrdered, lastFor?]
  | append_singleton ds d ih =>
    obtain ⟨ho, hmem⟩ := ih fun x hx => h x (by simp [hx])
    have hd : d.IsPlain := h d (by simp)
    have hplain : ∀ x ∈ sorted ds, x.IsPlain := fun x hx =>
      h x (by simp [(lastFor?_mem ((hmem x).mp hx)).1])
    have hsorted : sorted (ds ++ [d]) = insert d (sorted ds) := by simp [sorted]
    rw [hsorted]
    refine ⟨isOrdered_insert hd hplain ho, fun e => ?_⟩
    rw [mem_insert hd hplain ho, hmem, lastFor?_concat]
    by_cases htarget : d.target = e.target
    · simp [htarget, eq_comm]
    · have hne : e ≠ d := fun heq => htarget (by rw [heq])
      simp [htarget, hne, Ne.symm htarget]

/-- The directive that decides on a target: the last one for the longest of the targets that it
begins with. -/
structure Decisive (ds : List Directive) (target : String) (d : Directive) : Prop where
  last : lastFor? ds d.target = some d
  covers : d.beginning <+: target.toList
  longest : ∀ e ∈ ds, e.beginning <+: target.toList → e.beginning <+: d.beginning

variable {target : String} {r : Record}

theorem exists_last (h : e ∈ ds) : ∃ x, lastFor? ds x.target = some x ∧ x.target = e.target := by
  have hne : ds.filter (·.target = e.target) ≠ [] :=
    List.ne_nil_of_mem (List.mem_filter.mpr ⟨h, by simp⟩)
  obtain ⟨x, hx⟩ := Option.isSome_iff_exists.mp (List.getLast?_isSome.mpr hne)
  have hlast : lastFor? ds e.target = some x := hx
  have htarget := (lastFor?_mem hlast).2
  exact ⟨x, htarget ▸ hlast, htarget⟩

theorem Decisive.unique (hplain : ∀ x ∈ ds, x.IsPlain) (hd : Decisive ds target d)
    (he : Decisive ds target e) : d = e := by
  have hdmem := (lastFor?_mem hd.last).1
  have hemem := (lastFor?_mem he.last).1
  have hbeginning : d.beginning = e.beginning := by
    have hde := hd.longest e hemem he.covers
    have hed := he.longest d hdmem hd.covers
    exact hed.eq_of_length_le hde.length_le
  have htarget := (hplain d hdmem).target_eq (hplain e hemem) hbeginning
  have hlast := hd.last
  rw [htarget, he.last] at hlast
  exact (Option.some.inj hlast).symm

theorem ofDirectives_eq (hplain : ∀ x ∈ ds, x.IsPlain) : ofDirectives ds = ⟨sorted ds, []⟩ := by
  have hrules : ds.filter (·.isRule) = ds := List.filter_eq_self.mpr fun d hd => by
    simp [isRule, (hplain d hd).span, (hplain d hd).field]
  have hscopes : ds.filter (·.isScope) = [] := List.filter_eq_nil_iff.mpr fun d hd => by
    simp [isScope, (hplain d hd).span, (hplain d hd).field]
  rw [ofDirectives, hrules, hscopes]
  rfl

theorem decisive_of_find? (hplain : ∀ x ∈ ds, x.IsPlain)
    (h : (sorted ds).find? (·.concerns r) = some d) : Decisive ds r.target d := by
  obtain ⟨ho, hmem⟩ := sorted_spec hplain
  obtain ⟨hconcerns, before, after, hsplit, hbefore⟩ := List.find?_eq_some_iff_append.mp h
  have hlast := (hmem d).mp (by simp [hsplit])
  have hd := hplain d (lastFor?_mem hlast).1
  refine ⟨hlast, hd.concerns_iff.mp hconcerns, fun e he hcovers => ?_⟩
  -- The last directive for the target of `e` is not in front of the one that was found.
  obtain ⟨x, hx, htarget⟩ := exists_last he
  have hxplain := hplain x (lastFor?_mem hx).1
  have hbeginning : x.beginning = e.beginning := by rw [beginning, beginning, htarget]
  rw [← hbeginning] at hcovers ⊢
  have hconcerned := hxplain.concerns_iff.mpr hcovers
  have hin : x ∈ before ++ d :: after := hsplit ▸ (hmem x).mpr hx
  rcases List.mem_append.mp hin with hin | hin
  · have hno := hbefore x hin
    rw [hconcerned] at hno
    cases hno
  · rcases List.mem_cons.mp hin with rfl | hin
    · exact List.prefix_rfl
    · rw [hsplit] at ho
      have hgt := (List.pairwise_cons.mp (List.pairwise_append.mp ho).2.1).1 x hin
      by_contra hshorter
      have hstart : d.beginning <+: x.beginning :=
        (List.prefix_or_prefix_of_prefix (hd.concerns_iff.mp hconcerns) hcovers).resolve_right
          hshorter
      rw [breadth_lt hstart fun heq => hshorter (heq ▸ List.prefix_rfl)] at hgt
      cases hgt

theorem ruleFor?_eq_some_iff (hplain : ∀ x ∈ ds, x.IsPlain) :
    (ofDirectives ds).ruleFor? r = some d ↔ Decisive ds r.target d := by
  rw [ofDirectives_eq hplain, ruleFor?]
  refine ⟨decisive_of_find? hplain, fun hd => ?_⟩
  have hmem := (sorted_spec hplain).2 d
  have hconcerns := (hplain d (lastFor?_mem hd.last).1).concerns_iff.mpr hd.covers
  cases hfind : (sorted ds).find? (·.concerns r) with
  | none =>
    exact absurd hconcerns (List.find?_eq_none.mp hfind d (hmem.mpr hd.last))
  | some e => rw [(decisive_of_find? hplain hfind).unique hplain hd]

theorem exists_decisive_iff (hplain : ∀ x ∈ ds, x.IsPlain) :
    (∃ d, Decisive ds r.target d) ↔ ∃ d ∈ ds, d.beginning <+: r.target.toList := by
  constructor
  · exact fun ⟨d, hd⟩ => ⟨d, (lastFor?_mem hd.last).1, hd.covers⟩
  · rintro ⟨e, he, hcovers⟩
    obtain ⟨x, hx, htarget⟩ := exists_last he
    have hxplain := hplain x (lastFor?_mem hx).1
    have hconcerns : x.concerns r = true :=
      hxplain.concerns_iff.mpr (by rwa [beginning, htarget])
    cases hfind : (sorted ds).find? (·.concerns r) with
    | none =>
      have hin := ((sorted_spec hplain).2 x).mpr hx
      exact absurd hconcerns (List.find?_eq_none.mp hfind x hin)
    | some d => exact ⟨d, decisive_of_find? hplain hfind⟩

theorem admits_iff (hplain : ∀ x ∈ ds, x.IsPlain) : (ofDirectives ds).admits r = true ↔
    ∃ d, Decisive ds r.target d ∧ d.threshold.admits r.level = true := by
  unfold admits
  constructor
  · intro h
    split at h
    · next d hd => exact ⟨d, (ruleFor?_eq_some_iff hplain).mp hd, h⟩
    · cases h
  · rintro ⟨d, hd, hlevel⟩
    rw [(ruleFor?_eq_some_iff hplain).mpr hd]
    exact hlevel

/-- Directives agree on a target if the last ones for all that it begins with are the same. -/
def AgreeOn (target : String) (ds es : List Directive) : Prop :=
  ∀ begun : Option String, (begun.map String.toList).getD [] <+: target.toList →
    lastFor? ds begun = lastFor? es begun

theorem AgreeOn.symm {es : List Directive} (h : AgreeOn target ds es) : AgreeOn target es ds :=
  fun begun hbegun => (h begun hbegun).symm

theorem Decisive.of_agreeOn {es : List Directive} (hd : Decisive ds target d)
    (h : AgreeOn target ds es) : Decisive es target d := by
  refine ⟨(h d.target hd.covers).symm.trans hd.last, hd.covers, fun e he hcovers => ?_⟩
  obtain ⟨x, hx, htarget⟩ := exists_last he
  have hbeginning : x.beginning = e.beginning := by rw [beginning, beginning, htarget]
  rw [← hbeginning] at hcovers ⊢
  rw [← h x.target hcovers] at hx
  exact hd.longest x (lastFor?_mem hx).1 hcovers

theorem admits_congr {es : List Directive} (hds : ∀ x ∈ ds, x.IsPlain) (hes : ∀ x ∈ es, x.IsPlain)
    (h : AgreeOn r.target ds es) : (ofDirectives ds).admits r = (ofDirectives es).admits r := by
  rw [Bool.eq_iff_iff, admits_iff hds, admits_iff hes]
  exact ⟨fun ⟨d, hd, hlevel⟩ => ⟨d, hd.of_agreeOn h, hlevel⟩,
    fun ⟨d, hd, hlevel⟩ => ⟨d, hd.of_agreeOn h.symm, hlevel⟩⟩

theorem lastFor?_append (front back : List Directive) (begun : Option String) :
    lastFor? (front ++ back) begun = (lastFor? back begun).or (lastFor? front begun) := by
  rw [lastFor?, lastFor?, lastFor?, List.filter_append, List.getLast?_append]

theorem agreeOn_of_filter_eq {es : List Directive}
    (h : ∀ begun, ds.filter (·.target = begun) = es.filter (·.target = begun)) :
    AgreeOn target ds es := fun begun _ => by rw [lastFor?, lastFor?, h]

theorem agreeOn_of_not_covers {front back : List Directive}
    (h : ¬ d.beginning <+: target.toList) :
    AgreeOn target (front ++ d :: back) (front ++ back) := by
  intro begun hbegun
  have hne : d.target ≠ begun := fun heq => h (by rwa [beginning, heq])
  simp [lastFor?, hne]

theorem agreeOn_of_later {front between back : List Directive} (h : d.target = e.target) :
    AgreeOn target (front ++ d :: between ++ e :: back) (front ++ between ++ e :: back) := by
  intro begun _
  by_cases hbegun : e.target = begun
  · have hlater : (lastFor? (e :: back) begun).isSome = true := by
      simp [lastFor?, hbegun]
    obtain ⟨x, hx⟩ := Option.isSome_iff_exists.mp hlater
    rw [lastFor?_append _ (e :: back), lastFor?_append (front ++ between) (e :: back), hx,
      Option.some_or, Option.some_or]
  · simp [lastFor?, h, hbegun]

end Filter
end HostBridge.Log
