import HostBridge.Proofs.Log.Reading
import HostBridge.Proofs.MessageLoop.Sink

/-!
# What filters let through

The directives of a text are read one after another, and the first that is malformed makes the
bridge fall back to the records of its own modules from level info up. Otherwise the longest of the
targets that a record's target begins with decides. What is let through reaches the sink, record by
record.

A part that has blanks in front of it and wider characters may be cut inside one of these. There is
no filter then, whatever else is in the text.
-/
namespace HostBridge.Log

namespace Filter

open Directive

variable {text : String} {part : List Char} {pieces : List (List Char)} {ds : List Directive}
  {r : Record}

def Reads (text : String) (ds : List Directive) : Prop :=
  List.Forall₂ Written (parts text.toList) ds

def joined (pieces : List (List Char)) : String := String.ofList ([','].intercalate pieces)

theorem parts_joined (h : ∀ piece ∈ pieces, ',' ∉ piece) :
    parts (joined pieces).toList = pieces.filter (!·.isEmpty) := by
  rw [parts, joined, String.toList_ofList]
  by_cases hnone : pieces = []
  · subst hnone
    rfl
  · rw [List.splitOn_intercalate ',' h hnone]

theorem mapM_ofChars_of_written (h : List.Forall₂ Written pieces ds) :
    pieces.mapM ofChars = .ok ds := by
  induction h with
  | nil => rfl
  | cons hfirst _ ih =>
    rw [List.mapM_cons, hfirst.ofChars_eq, ih]
    rfl

/-- Each part can be cut out as long as those in front of it are directives. -/
def CuttableInTurn : List (List Char) → Prop
  | [] => True
  | part :: rest => IsCuttable part ∧ ((∃ d, ofChars part = .ok d) → CuttableInTurn rest)

theorem uncut_mapM_ofChars_iff : Uncut (pieces.mapM ofChars) ↔ CuttableInTurn pieces := by
  induction pieces with
  | nil => exact iff_of_true (uncut_pure _) trivial
  | cons p pieces ih =>
    rw [List.mapM_cons, uncut_bind_iff, uncut_ofChars_iff, CuttableInTurn, forall_exists_index]
    refine and_congr_right fun _ => forall_congr' fun d => imp_congr_right fun _ => ?_
    rw [uncut_bind_pure_iff, ih]

theorem mapM_ofChars_ne_ok {front : List (List Char)} (back : List (List Char))
    (hpart : ∀ d, ofChars part ≠ .ok d) : (front ++ part :: back).mapM ofChars ≠ .ok ds := by
  induction front generalizing ds with
  | nil =>
    rw [List.nil_append, List.mapM_cons]
    cases hread : ofChars part with
    | ok d => exact absurd hread (hpart d)
    | error fault => rintro ⟨⟩
  | cons p front ih =>
    rw [List.cons_append, List.mapM_cons]
    cases ofChars p with
    | error fault => rintro ⟨⟩
    | ok d =>
      cases hrest : (front ++ part :: back).mapM ofChars with
      | error fault => rintro ⟨⟩
      | ok es => exact absurd hrest ih

theorem cuttableInTurn_of_refused {front : List (List Char)} (back : List (List Char))
    (hpart : ∀ d, ofChars part ≠ .ok d) :
    CuttableInTurn (front ++ part :: back) ↔ CuttableInTurn (front ++ [part]) := by
  induction front with
  | nil =>
    have hno : ¬ ∃ d, ofChars part = .ok d := fun ⟨d, hread⟩ => hpart d hread
    simp only [List.nil_append, CuttableInTurn, hno, false_imp_iff]
  | cons p front ih => simp only [List.cons_append, CuttableInTurn, ih]

theorem build_of_reads (h : Reads text ds) : build text = .ok (ofDirectives ds, none) := by
  rw [build, parse, mapM_ofChars_of_written h]
  rfl

theorem build_total_iff :
    (∃ result, build text = .ok result) ↔ CuttableInTurn (parts text.toList) := by
  rw [← uncut_mapM_ofChars_iff, build, parse]
  cases (parts text.toList).mapM ofChars with
  | ok ds => exact iff_of_true ⟨_, rfl⟩ (uncut_ok ds)
  | error fault =>
    cases fault with
    | invalid e => exact iff_of_true ⟨_, rfl⟩ (uncut_refuse e)
    | cut e => exact iff_of_false (by rintro ⟨_, ⟨⟩⟩) fun h => h e rfl

theorem build_of_malformed_iff {front back : List (List Char)}
    (hparts : parts text.toList = front ++ part :: back) (hpart : Malformed part) :
    (∃ e, build text = .ok (standard, some (complaint text e))) ↔
      CuttableInTurn (front ++ [part]) := by
  have hrefused := hpart.ofChars_ne_ok
  have htotal : (∃ result, build text = .ok result) ↔ CuttableInTurn (front ++ [part]) := by
    rw [build_total_iff, hparts, cuttableInTurn_of_refused back hrefused]
  rw [← htotal]
  refine ⟨fun ⟨e, he⟩ => ⟨_, he⟩, fun ⟨result, hresult⟩ => ?_⟩
  rw [build, parse, hparts] at hresult ⊢
  cases hread : (front ++ part :: back).mapM ofChars with
  | ok ds => exact absurd hread (mapM_ofChars_ne_ok back hrefused)
  | error fault =>
    rw [hread] at hresult
    cases fault with
    | invalid e => exact ⟨e, rfl⟩
    | cut e => cases hresult

theorem Reads.isPlain (h : Reads text ds) : ∀ d ∈ ds, d.IsPlain := by
  unfold Reads at h
  generalize parts text.toList = pieces at h
  induction h with
  | nil => simp
  | cons hfirst _ ih => exact List.forall_mem_cons.mpr ⟨hfirst.isPlain, ih⟩

theorem standard_admits_iff : standard.admits r = true ↔
    "plugbridge".toList <+: r.target.toList ∧ r.level.verbosity ≤ 3 := by
  have hinfo : Level.info.verbosity = 3 := rfl
  have hconcerns : (⟨some "plugbridge", none, none, .level .info⟩ : Directive).concerns r =
      "plugbridge".toList.isPrefixOf r.target.toList := by
    simp [concerns]
  rw [admits, ruleFor?, standard, List.find?_cons, hconcerns, ← List.isPrefixOf_iff_prefix]
  cases "plugbridge".toList.isPrefixOf r.target.toList <;> simp [Threshold.admits, hinfo]

theorem admits_of_more_severe {f : Filter} {other : Record} (h : f.admits r = true)
    (htarget : other.target = r.target) (hfields : other.fields = r.fields)
    (hlevel : other.level.verbosity ≤ r.level.verbosity) : f.admits other = true := by
  have hrule : f.ruleFor? other = f.ruleFor? r := by
    simp only [ruleFor?, concerns, htarget, hfields]
  rw [admits, hrule]
  rw [admits] at h
  cases hfound : f.ruleFor? r with
  | none =>
    rw [hfound] at h
    cases h
  | some d =>
    rw [hfound] at h
    obtain ⟨target, span, field, threshold⟩ := d
    cases threshold with
    | off => cases h
    | level least =>
      simp only [Threshold.admits, decide_eq_true_eq] at h ⊢
      omega

theorem foldl_log_of_sink {c : Console} {sink : String} (hsink : c.sink = some sink) (f : Filter)
    (records : List Record) : (records.foldl (·.log f ·) c) =
      { c with deliveries := c.deliveries ++ (records.filter f.admits).map fun record =>
          .message sink (.ofRecord record.level) record.line } := by
  induction records generalizing c with
  | nil => simp
  | cons record rest ih =>
    rw [List.foldl_cons, Console.log_of_sink hsink, List.filter_cons]
    split
    · rw [ih (c := c.deliver _) hsink]
      simp [Console.deliver]
    · exact ih hsink

/-- What becomes of a text of directives, and what the filter lets through. There is a filter unless
a part is cut inside a character before another one is refused, and the first part that is refused
makes it the standard one. If all are read, the last directive for the longest of the targets that a
record's target begins with decides. The order of directives for different targets, those for other
targets, those replaced later and empty parts do not matter. The sink is entered once with each
record let through. -/
structure FilterLaw (text : String) : Prop where
  total : (∃ result, build text = .ok result) ↔ CuttableInTurn (parts text.toList)
  fallsBack : ∀ front part back, parts text.toList = front ++ part :: back → Malformed part →
    ((∃ e, build text = .ok (standard, some (complaint text e))) ↔
      CuttableInTurn (front ++ [part]))
  cuttable : ∀ part : List Char,
    (∀ c ∈ part.head?, isBlank c = false) ∨ (∀ c ∈ part, c.utf8Size = 1) → IsCuttable part
  standard_eq : build standardText = .ok (standard, none)
  kept : ∀ r : Record, "plugbridge_core".toList <+: r.target.toList ∨
    "plugbridge_runtime".toList <+: r.target.toList → r.level = .error ∨ r.level = .warn →
      standard.admits r = true
  wellFormed : ∀ ds, Reads text ds → build text = .ok (ofDirectives ds, none) ∧
    ∀ r : Record, ((ofDirectives ds).admits r = true ↔
      ∃ d, Decisive ds r.target d ∧ d.threshold.admits r.level = true) ∧
        ((∃ d, Decisive ds r.target d) ↔ ∃ d ∈ ds, d.beginning <+: r.target.toList)
  permuted : ∀ other ds es, Reads text ds → Reads other es →
    (∀ begun, ds.filter (·.target = begun) = es.filter (·.target = begun)) →
      ∀ r, (ofDirectives ds).admits r = (ofDirectives es).admits r
  unrelated : ∀ other front d back, Reads text (front ++ d :: back) →
    Reads other (front ++ back) → ∀ r : Record, ¬ d.beginning <+: r.target.toList →
      (ofDirectives (front ++ d :: back)).admits r = (ofDirectives (front ++ back)).admits r
  replaced : ∀ other front d between e back, Reads text (front ++ d :: between ++ e :: back) →
    Reads other (front ++ between ++ e :: back) → d.target = e.target → ∀ r,
      (ofDirectives (front ++ d :: between ++ e :: back)).admits r =
        (ofDirectives (front ++ between ++ e :: back)).admits r
  empties : ∀ pieces, (∀ piece ∈ pieces, ',' ∉ piece) →
    parse (joined pieces) = parse (joined (pieces.filter (!·.isEmpty)))
  severe : ∀ (f : Filter) (r other : Record), f.admits r = true → other.target = r.target →
    other.fields = r.fields → other.level.verbosity ≤ r.level.verbosity → f.admits other = true
  console : ∀ (f : Filter) (c : Console) (sink : String) (records : List Record),
    c.sink = some sink → (records.foldl (·.log f ·) c).deliveries =
      c.deliveries ++ (records.filter f.admits).map fun record =>
        .message sink (.ofRecord record.level) record.line

theorem filters_follow_directives (text : String) : FilterLaw text where
  total := build_total_iff
  fallsBack _ _ _ := build_of_malformed_iff
  cuttable _ h := h.elim isCuttable_of_no_blank isCuttable_of_narrow
  standard_eq := by decide +kernel
  kept r htarget hlevel := by
    refine standard_admits_iff.mpr ⟨?_, ?_⟩
    · have hcore : "plugbridge".toList <+: "plugbridge_core".toList := by decide
      have hruntime : "plugbridge".toList <+: "plugbridge_runtime".toList := by decide
      exact htarget.elim hcore.trans hruntime.trans
    · rcases hlevel with hlevel | hlevel <;> rw [hlevel] <;> decide
  wellFormed ds h :=
    ⟨build_of_reads h, fun r => ⟨admits_iff h.isPlain, exists_decisive_iff h.isPlain⟩⟩
  permuted _ _ _ hds hes heq _ := admits_congr hds.isPlain hes.isPlain (agreeOn_of_filter_eq heq)
  unrelated _ _ _ _ hds hes _ hno :=
    admits_congr hds.isPlain hes.isPlain (agreeOn_of_not_covers hno)
  replaced _ _ _ _ _ _ hds hes htarget _ :=
    admits_congr hds.isPlain hes.isPlain (agreeOn_of_later htarget)
  empties pieces h := by
    rw [parse, parse, parts_joined h, parts_joined fun piece hpiece =>
      h piece (List.mem_filter.mp hpiece).1, List.filter_filter]
    simp
  severe _ _ _ := admits_of_more_severe
  console f c sink records hsink := by rw [foldl_log_of_sink hsink]

/-- A level for all targets and a more verbose one for those of a module: a record of the module
is let through that the first part alone would keep back. -/
theorem filters_follow_directives_of_module : ∃ ds, Reads "warn,app=debug" ds ∧
    (∃ d, Decisive ds "app::store" d ∧ d.target = some "app") ∧
      (∀ r : Record, r.target = "app::store" → r.level = .debug →
        (ofDirectives ds).admits r = true) ∧ FilterLaw "warn,app=debug" := by
  let all : Directive := ⟨none, none, none, .level .warn⟩
  let own : Directive := ⟨some "app", none, none, .level .debug⟩
  have hall : Written "warn".toList all :=
    .level ⟨⟨'w', by decide, by decide +kernel⟩, by simp [isTargetEnd]⟩ (by decide +kernel)
  have hown : Written ("app".toList ++ '=' :: "debug".toList) own :=
    .both ⟨⟨'a', by decide, by decide +kernel⟩, by simp [isTargetEnd]⟩ (.level (by decide +kernel))
  have hreads : Reads "warn,app=debug" [all, own] := .cons hall (.cons hown .nil)
  have hdecisive : Decisive [all, own] "app::store" own := by
    refine ⟨by decide +kernel, by decide +kernel, fun e he _ => ?_⟩
    simp only [List.mem_cons, List.not_mem_nil, or_false] at he
    rcases he with rfl | rfl <;> decide +kernel
  have hlaw := filters_follow_directives "warn,app=debug"
  refine ⟨_, hreads, ⟨own, hdecisive, rfl⟩, fun r htarget hlevel => ?_, hlaw⟩
  refine ((hlaw.wellFormed _ hreads).2 r).1.mpr ⟨own, htarget ▸ hdecisive, ?_⟩
  rw [hlevel]
  decide

/-- The second part is malformed. It is cut inside its first character, and there is no filter. -/
theorem malformed_part_cut_inside_character :
    (∃ part ∈ parts "info, é=bogus".toList, Malformed part) ∧
      build "info, é=bogus" = .error ⟨.stop, 2, 'é', 1⟩ := by
  have hpart : Malformed " é=bogus".toList :=
    @Malformed.noLevel [' ', 'é'] "bogus".toList (by simp [isTargetEnd]) (by decide)
      (by decide +kernel)
  exact ⟨⟨_, by decide +kernel, hpart⟩, by decide +kernel⟩

end Filter
end HostBridge.Log
