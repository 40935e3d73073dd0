import HostBridge.Proofs.Log.Cutting
import HostBridge.Proofs.Log.Selection
import HostBridge.Proofs.Text.Readers

/-!
# Reading directives

How a part without brackets is written and what it says, and the parts that say nothing: those
without a target before the equals sign, and those with no level after it.
-/
namespace HostBridge

theorem not_isBlank_of_beginsTarget {c : Char} (h : Log.Directive.beginsTarget c = true) :
    isBlank c = false := by
  have hall : ∀ n ∈ blankRanges.flatMap fun range => List.range' range.1 (range.2 - range.1 + 1),
      Log.Directive.beginsTarget (Char.ofNat n) = false := by
    decide +kernel
  by_contra hblank
  rw [Bool.not_eq_false, isBlank, inRanges, List.any_eq_true] at hblank
  obtain ⟨range, hrange, hin⟩ := hblank
  simp only [Bool.and_eq_true, decide_eq_true_eq] at hin
  have hmem : c.toNat ∈
      blankRanges.flatMap fun range => List.range' range.1 (range.2 - range.1 + 1) :=
    List.mem_flatMap.mpr ⟨range, hrange, List.mem_range'_1.mpr (by omega)⟩
  have hno := hall c.toNat hmem
  rw [Char.ofNat_toNat, h] at hno
  cases hno

namespace Log

theorem Threshold.ofChars?_eq_none {text : List Char} (h : '=' ∈ text) :
    Threshold.ofChars? text = none := by
  have hnumber : Threshold.number.runChars? text = none := by
    by_contra hsome
    obtain ⟨n, hn⟩ := Option.ne_none_iff_exists'.mp hsome
    have hsign : Reader.Takes (fun c => c = '+' ∨ c.isDigit = true) (Reader.char '+') :=
      (Reader.takes_satisfy fun c hc => .inl (eq_of_beq hc)).bind fun _ => Reader.takes_pure ()
    have htakes : Reader.Takes (fun c => c = '+' ∨ c.isDigit = true) Threshold.number :=
      hsign.optionally.bind fun _ => (Reader.takes_takeSome fun _ hc => .inr hc).map _
    have hallowed := htakes.of_runChars? hn '=' h
    revert hallowed
    decide
  have hname : ∀ threshold ∈ Threshold.all, '=' ∉ threshold.name.toList := by decide
  rw [Threshold.ofChars?, hnumber]
  refine List.find?_eq_none.mpr fun threshold hmem heq => hname threshold hmem ?_
  rw [eq_of_beq heq]
  exact List.mem_map.mpr ⟨'=', h, by decide⟩

/-- The text of a level; where nothing is written, the most verbose one is meant. -/
inductive LevelText : List Char → Threshold → Prop
  | nothing : LevelText [] (.level .trace)
  | level {text : List Char} {threshold : Threshold} : Threshold.ofChars? text = some threshold →
      LevelText text threshold

namespace Directive

/-- What a part says: a lone level is meant for all targets, a lone target is let through. -/
inductive Written : List Char → Directive → Prop
  | level {word : List Char} {threshold : Threshold} : IsName word →
      Threshold.ofChars? word = some threshold → Written word ⟨none, none, none, threshold⟩
  | target {word : List Char} : IsName word → Threshold.ofChars? word = none →
      Written word ⟨some (String.ofList word), none, none, .level .trace⟩
  | both {target level : List Char} {threshold : Threshold} : IsName target →
      LevelText level threshold →
      Written (target ++ '=' :: level) ⟨some (String.ofList target), none, none, threshold⟩

variable {part target level name : List Char} {d : Directive} {threshold : Threshold}

theorem Written.isPlain (h : Written part d) : d.IsPlain := by
  have hne {word : List Char} (hname : IsName word) : some (String.ofList word) ≠ some "" := by
    intro heq
    have hnil := congrArg String.toList (Option.some.inj heq)
    rw [String.toList_ofList] at hnil
    exact hname.ne_nil hnil
  cases h with
  | level => exact ⟨rfl, rfl, by simp⟩
  | target hname => exact ⟨rfl, rfl, hne hname⟩
  | both hname => exact ⟨rfl, rfl, hne hname⟩

theorem trimBlanks_marked (target level : List Char) :
    ∃ kept, trimBlanks (target ++ '=' :: level) = target.dropWhile isBlank ++ '=' :: kept := by
  obtain ⟨kept, -, htrim, -⟩ :=
    trimBlanks_append_cons (show isBlank '=' = false by decide) target level
  exact ⟨kept, htrim⟩

theorem byteCount_marked (target : List Char) :
    byteCount (target ++ ['=']) = byteCount target + 1 := by
  rw [byteCount_append]
  rfl

theorem IsName.dropWhile_eq (h : IsName name) : name.dropWhile isBlank = name := by
  obtain ⟨c, hc, hbegins⟩ := h.begins
  cases name with
  | nil => cases hc
  | cons first rest =>
    cases hc
    simp [not_isBlank_of_beginsTarget hbegins]

theorem ofChars_word (h : IsName name) : ofChars name = .ok (ofWord name) := by
  obtain ⟨c, hc, hbegins⟩ := h.begins
  cases name with
  | nil => cases hc
  | cons first rest =>
    cases hc
    obtain ⟨kept, tail, htrim, hrest⟩ :=
      trimBlanks_append_cons (not_isBlank_of_beginsTarget hbegins) [] rest
    have hends : ∀ x ∈ c :: kept, isTargetEnd x = false := fun x hx =>
      h.ends x (by
        rw [hrest]
        simp only [List.mem_cons, List.mem_append] at hx ⊢
        exact hx.imp_right .inl)
    have hfirst : c ≠ '[' := fun heq => by
      have hend := hends c (by simp)
      rw [heq] at hend
      cases hend
    have htrim' : trimBlanks (c :: rest) = c :: kept := htrim
    rw [ofChars_eq htrim' hfirst, hbegins, nextMark?_eq_none hends]
    rfl

theorem textBetween_zero (front back : List Char) :
    textBetween (front ++ back) 0 (byteCount front) = .ok front := by
  have hstart : upTo .start 0 (front ++ back) = .ok [] := upTo_byteCount .start [] (front ++ back)
  rw [textBetween, piece, hstart, upTo_byteCount]
  rfl

theorem levelFrom_eq {place : Nat} {text : List Char} (h : pieceFrom part place = .ok text) :
    levelFrom part place =
      if text.isEmpty then .ok (.level .trace)
      else match Threshold.ofChars? text with
        | some threshold => .ok threshold
        | none => refuse .badLevel := by
  rw [levelFrom, h]
  rfl

theorem pieceFrom_byteCount (front back : List Char) :
    pieceFrom (front ++ back) (byteCount front) = .ok back := by
  rw [pieceFrom, upTo_byteCount]
  exact congrArg Except.ok List.drop_left

theorem ofChars_marked {c : Char} {rest kept : List Char}
    (htrim : trimBlanks part = c :: rest ++ '=' :: kept)
    (hends : ∀ x ∈ c :: rest, isTargetEnd x = false) (hbegins : beginsTarget c = true) :
    ofChars part = textBetween part 0 (byteCount (c :: rest)) >>= fun text =>
      (levelFrom part (byteCount (c :: rest) + 1)).map
        fun threshold => ⟨some (String.ofList text), none, none, threshold⟩ := by
  have hfirst : c ≠ '[' := by
    rintro rfl
    cases hends '[' (by simp)
  have hmarked : Marked isTargetEnd (⟨0, c :: rest ++ '=' :: kept⟩ : Cursor).rest (c :: rest) '='
      kept := ⟨rfl, hends, by decide⟩
  have hmark := hmarked.nextMark?_eq
  rw [Nat.zero_add] at hmark
  rw [List.cons_append] at htrim hmark
  rw [ofChars_eq htrim hfirst, hbegins, hmark]
  rfl

theorem ofChars_targeted (h : IsName target) : ofChars (target ++ '=' :: level) =
    (levelFrom (target ++ '=' :: level) (byteCount (target ++ ['=']))).map
      fun threshold => ⟨some (String.ofList target), none, none, threshold⟩ := by
  obtain ⟨kept, htrim⟩ := trimBlanks_marked target level
  rw [h.dropWhile_eq] at htrim
  obtain ⟨c, hc, hbegins⟩ := h.begins
  cases target with
  | nil => cases hc
  | cons first rest =>
    cases hc
    rw [ofChars_marked htrim h.ends hbegins, textBetween_zero, byteCount_marked]
    rfl

theorem Written.ofChars_eq (h : Written part d) : ofChars part = .ok d := by
  cases h with
  | level hname hlevel => rw [ofChars_word hname, ofWord, hlevel]
  | target hname hlevel => rw [ofChars_word hname, ofWord, hlevel]
  | @both target level threshold hname hlevel =>
    rw [ofChars_targeted hname, List.append_cons, levelFrom_eq (pieceFrom_byteCount _ level)]
    cases hlevel with
    | nothing => rfl
    | level hlevel =>
      cases level with
      | nil => cases hlevel
      | cons c rest =>
        rw [hlevel]
        rfl

/-- A part without a target before the equals sign, or with no level after it. -/
inductive Malformed : List Char → Prop
  | noTarget {blanks level : List Char} : (∀ c ∈ blanks, isBlank c = true) →
      Malformed (blanks ++ '=' :: level)
  | noLevel {target level : List Char} : (∀ c ∈ target, isTargetEnd c = false) → level ≠ [] →
      Threshold.ofChars? level = none → Malformed (target ++ '=' :: level)

theorem levelText_of_levelFrom {place : Nat} (h : levelFrom part place = .ok threshold) :
    ∃ front, takeBytes place part = .ok front ∧
      LevelText (part.drop front.length) threshold := by
  cases hfront : takeBytes place part with
  | error e =>
    have hcut : ∃ fault, levelFrom part place = .error fault := by
      rw [levelFrom, pieceFrom, upTo, hfront]
      exact ⟨_, rfl⟩
    obtain ⟨fault, hfault⟩ := hcut
    cases hfault.symm.trans h
  | ok front =>
    refine ⟨front, rfl, ?_⟩
    have hafter : pieceFrom part place = .ok (part.drop front.length) := by
      rw [pieceFrom, upTo, hfront]
      rfl
    rw [levelFrom_eq hafter] at h
    generalize part.drop front.length = text at h ⊢
    cases text with
    | nil =>
      cases h
      exact .nothing
    | cons c rest =>
      cases hread : Threshold.ofChars? (c :: rest) with
      | none =>
        rw [hread] at h
        cases h
      | some found =>
        rw [hread] at h
        cases h
        exact .level hread

/-- With blanks in front of it, a target is cut too early, and what is taken for the level has the
equals sign in it. -/
theorem not_levelText_of_blank {front : List Char}
    (hfront : takeBytes (byteCount (target.dropWhile isBlank) + 1) (target ++ '=' :: level) =
      .ok front) (hblank : target.takeWhile isBlank ≠ []) :
    ¬ LevelText ((target ++ '=' :: level).drop front.length) threshold := by
  obtain ⟨hstart, hcount⟩ := takeBytes_spec hfront
  have htarget : byteCount target =
      byteCount (target.takeWhile isBlank) + byteCount (target.dropWhile isBlank) := by
    rw [← byteCount_append, List.takeWhile_append_dropWhile]
  have hpos := byteCount_pos hblank
  have hlength : front.length ≤ target.length := by
    rcases List.prefix_or_prefix_of_prefix hstart (List.prefix_append target _) with
      h | ⟨more, rfl⟩
    · exact h.length_le
    · rw [byteCount_append] at hcount
      have hmore : more = [] := by
        by_contra hne
        have hmorepos := byteCount_pos hne
        omega
      rw [hmore, List.append_nil]
  have hmem : '=' ∈ (target ++ '=' :: level).drop front.length := by
    rw [List.drop_append_of_le_length hlength]
    simp
  generalize (target ++ '=' :: level).drop front.length = text at hmem
  rintro (_ | hlevel)
  · cases hmem
  · cases hlevel.symm.trans (Threshold.ofChars?_eq_none hmem)

theorem not_levelText_of_noLevel {front : List Char}
    (hfront : takeBytes (byteCount (target.dropWhile isBlank) + 1) (target ++ '=' :: level) =
      .ok front) (hlevel : level ≠ []) (hnone : Threshold.ofChars? level = none) :
    ¬ LevelText ((target ++ '=' :: level).drop front.length) threshold := by
  by_cases hblank : target.takeWhile isBlank = []
  · have hname : target.dropWhile isBlank = target := by
      conv_rhs => rw [← List.takeWhile_append_dropWhile (p := isBlank) (l := target), hblank]
      rfl
    rw [hname, ← byteCount_marked, List.append_cons target _ level, takeBytes_byteCount] at hfront
    cases hfront
    rw [List.append_cons target _ level, List.drop_left]
    rintro (_ | hread)
    · exact hlevel rfl
    · cases hread.symm.trans hnone
  · exact not_levelText_of_blank hfront hblank

theorem ofChars_of_blank (hblank : target.dropWhile isBlank = []) :
    ofChars (target ++ '=' :: level) = refuse .badDirective := by
  obtain ⟨kept, htrim⟩ := trimBlanks_marked target level
  rw [hblank] at htrim
  rw [ofChars_eq htrim (by decide)]
  rfl

theorem ofChars_ne_ok_of_noLevel (hends : ∀ c ∈ target, isTargetEnd c = false) (hlevel : level ≠ [])
    (hnone : Threshold.ofChars? level = none) : ofChars (target ++ '=' :: level) ≠ .ok d := by
  obtain ⟨kept, htrim⟩ := trimBlanks_marked target level
  intro hread
  cases hname : target.dropWhile isBlank with
  | nil => cases (ofChars_of_blank hname).symm.trans hread
  | cons c rest =>
    have hkept : ∀ x ∈ c :: rest, isTargetEnd x = false := fun x hx =>
      hends x ((List.dropWhile_sublist isBlank).subset (hname ▸ hx))
    rw [hname] at htrim
    cases hbegins : beginsTarget c with
    | false =>
      have hfirst : c ≠ '[' := by
        rintro rfl
        cases hkept '[' (by simp)
      rw [ofChars_eq (List.cons_append ▸ htrim) hfirst, hbegins] at hread
      cases hread
    | true =>
      rw [ofChars_marked htrim hkept hbegins] at hread
      cases htext : textBetween (target ++ '=' :: level) 0 (byteCount (c :: rest)) with
      | error fault =>
        rw [htext] at hread
        cases hread
      | ok text =>
        cases hfrom : levelFrom (target ++ '=' :: level) (byteCount (c :: rest) + 1) with
        | error fault =>
          rw [htext, hfrom] at hread
          cases hread
        | ok threshold =>
          obtain ⟨front, hfront, hlevelText⟩ := levelText_of_levelFrom hfrom
          rw [← hname] at hfront
          exact not_levelText_of_noLevel hfront hlevel hnone hlevelText

theorem Malformed.ofChars_ne_ok (h : Malformed part) (d : Directive) : ofChars part ≠ .ok d := by
  cases h with
  | noTarget hblank =>
    rw [ofChars_of_blank (List.dropWhile_eq_nil_iff.mpr hblank)]
    intro hread
    cases hread
  | noLevel hends hlevel hnone => exact ofChars_ne_ok_of_noLevel hends hlevel hnone

end Directive
end Log
end HostBridge
