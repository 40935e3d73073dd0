import HostBridge.Displayed

/-!
# What a format reaches

A format cuts and fills up the names of kinds and of codes, and nothing else that the bridge displays:
not a number of bytes, nor a message, though the name of a kind be in it.
-/
namespace HostBridge

variable {f : TextFormat} {text kept : List Char} {before after : Nat}

/-- What is kept of a text under a format, and how much filling goes before and after it. -/
structure LaidOut (f : TextFormat) (text kept : List Char) (before after : Nat) : Prop where
  cut : ∀ most, f.precision = some most → kept = text.take most.toNat
  whole : f.precision = none → kept = text
  filled : ∀ width, f.width = some width → before + after = width.toNat - kept.length
  bare : f.width = none → before + after = 0
  left : f.alignment = none ∨ f.alignment = some .left → before = 0
  right : f.alignment = some .right → after = 0
  centre : f.alignment = some .centre → before ≤ after ∧ after ≤ before + 1

def TextFormat.around (f : TextFormat) (before : Nat) (kept : List Char) (after : Nat) : List Char :=
  List.replicate before f.fill ++ kept ++ List.replicate after f.fill

theorem LaidOut.unique {kept' : List Char} {before' after' : Nat}
    (h : LaidOut f text kept before after) (h' : LaidOut f text kept' before' after') :
    kept' = kept ∧ before' = before ∧ after' = after := by
  have hkept : kept' = kept := by
    cases hprecision : f.precision with
    | none => rw [h.whole hprecision, h'.whole hprecision]
    | some most => rw [h.cut most hprecision, h'.cut most hprecision]
  have hsum : before' + after' = before + after := by
    cases hwidth : f.width with
    | none => rw [h.bare hwidth, h'.bare hwidth]
    | some width => rw [h.filled width hwidth, h'.filled width hwidth, hkept]
  refine ⟨hkept, ?_⟩
  cases halignment : f.alignment with
  | none =>
    have hleft := h.left (.inl halignment)
    have hleft' := h'.left (.inl halignment)
    omega
  | some alignment =>
    cases alignment with
    | left =>
      have hleft := h.left (.inr halignment)
      have hleft' := h'.left (.inr halignment)
      omega
    | right =>
      have hright := h.right halignment
      have hright' := h'.right halignment
      omega
    | centre =>
      have hcentre := h.centre halignment
      have hcentre' := h'.centre halignment
      omega

theorem LaidOut.infix_around (h : LaidOut f text kept before after) (hprecision : f.precision = none) :
    text <:+: f.around before kept after :=
  ⟨List.replicate before f.fill, List.replicate after f.fill, by rw [← h.whole hprecision]; rfl⟩

theorem LaidOut.around_prefix (h : LaidOut f text kept before after) (hwidth : f.width = none) :
    f.around before kept after <+: text := by
  obtain ⟨rfl, rfl⟩ := Nat.add_eq_zero_iff.mp (h.bare hwidth)
  have haround : f.around 0 kept 0 = kept := by simp [TextFormat.around]
  rw [haround]
  cases hprecision : f.precision with
  | none => exact (h.whole hprecision) ▸ List.prefix_rfl
  | some most =>
    rw [h.cut most hprecision]
    exact List.take_prefix ..

theorem margins_sum (p : Padding) (length : Nat) :
    (p.margins length).1 + (p.margins length).2 = (p.width.getD 0).toNat - length := by
  unfold Padding.margins
  cases p.alignment <;> dsimp only <;> omega

theorem laidOut_padding (f : TextFormat) (text : List Char) :
    let p := f.padding .left
    LaidOut f text (p.cut text) (p.margins (p.cut text).length).1
      (p.margins (p.cut text).length).2 := by
  intro p
  have hsum := margins_sum p (p.cut text).length
  have hwidth : p.width = f.width := rfl
  constructor
  · intro most hmost
    simp [Padding.cut, p, TextFormat.padding, hmost]
  · intro hnone
    simp [Padding.cut, p, TextFormat.padding, hnone]
  · intro width hsome
    rw [hsum, hwidth, hsome]
    rfl
  · intro hnone
    rw [hsum, hwidth, hnone]
    exact Nat.zero_sub _
  · rintro (hnone | hleft)
    · simp [Padding.margins, p, TextFormat.padding, hnone]
    · simp [Padding.margins, p, TextFormat.padding, hleft]
  · intro hright
    simp [Padding.margins, p, TextFormat.padding, hright]
  · intro hcentre
    simp only [Padding.margins, p, TextFormat.padding, hcentre, Option.getD_some]
    omega

theorem text_padded_eq_iff {s out : String} : (Display.padded s).text f = out ↔
    ∃ kept before after, LaidOut f s.toList kept before after ∧
      out.toList = f.around before kept after := by
  have hlaid := laidOut_padding f s.toList
  have htext : ((Display.padded s).text f).toList = f.around
      ((f.padding .left).margins ((f.padding .left).cut s.toList).length).1
      ((f.padding .left).cut s.toList)
      ((f.padding .left).margins ((f.padding .left).cut s.toList).length).2 := by
    rw [Display.text, Padding.apply, String.toList_ofList]
    rfl
  constructor
  · rintro rfl
    exact ⟨_, _, _, hlaid, htext⟩
  · rintro ⟨kept, before, after, h, hout⟩
    obtain ⟨rfl, rfl, rfl⟩ := hlaid.unique h
    exact String.toList_inj.mp (htext.trans hout.symm)

theorem fits_and_map_eq_iff {size : Option Nat} {word : Option UInt16} :
    Padding.fits size = true ∧ size.map UInt16.ofNat = word ↔ word.map UInt16.toNat = size := by
  cases size with
  | none => cases word <;> simp [Padding.fits]
  | some n =>
    cases word with
    | none => simp
    | some word =>
      simp only [Padding.fits, Option.all_some, decide_eq_true_eq, Option.map_some,
        Option.some.injEq]
      constructor
      · rintro ⟨hlt, rfl⟩
        exact UInt16.toNat_ofNat_of_lt hlt
      · rintro rfl
        exact ⟨word.toNat_lt, UInt16.ofNat_toNat⟩

theorem ofSizes?_eq_some_iff {fill : Char} {alignment : Option Alignment}
    {width precision : Option Nat} : TextFormat.ofSizes? fill alignment width precision = some f ↔
      f.fill = fill ∧ f.alignment = alignment ∧ f.width.map UInt16.toNat = width ∧
        f.precision.map UInt16.toNat = precision := by
  obtain ⟨ownFill, ownAlignment, ownWidth, ownPrecision⟩ := f
  rw [TextFormat.ofSizes?, Option.ite_none_right_eq_some, Bool.and_eq_true, Option.some.injEq,
    TextFormat.mk.injEq, ← fits_and_map_eq_iff, ← fits_and_map_eq_iff]
  constructor
  · rintro ⟨⟨hwidth, hprecision⟩, rfl, rfl, rfl, rfl⟩
    exact ⟨rfl, rfl, ⟨hwidth, rfl⟩, hprecision, rfl⟩
  · rintro ⟨rfl, rfl, ⟨hwidth, rfl⟩, hprecision, rfl⟩
    exact ⟨⟨hwidth, hprecision⟩, rfl, rfl, rfl, rfl⟩

theorem intText_natCast (n : Nat) : intText n = natText n := by
  rw [intText, intChars, if_neg (by omega), Int.natAbs_natCast, natText]

theorem text_joined (parts : List Display) :
    (Display.joined parts).text f = (parts.map (Display.text .plain)).foldr (· ++ ·) "" := by
  rw [Display.text]
  induction parts with
  | nil => rfl
  | cons part rest ih => rw [Display.textOfAll, ih, List.map_cons, List.foldr_cons]

theorem DecodeError.text_display (e : DecodeError) (f : TextFormat) :
    e.display.text f = e.message := by
  -- The message is stated here, since unfolding it would have the words in it spelled out.
  cases e with
  | unknownKind tag =>
    change (Display.joined [.verbatim "unknown variant kind tag ", .number tag.toInt]).text f =
      "unknown variant kind tag " ++ intText tag.toInt
    simp [text_joined]
  | kindMismatch expected found =>
    change (Display.joined [.verbatim "expected ", .padded expected.name,
        .verbatim " variant, found ", .padded found.name]).text f =
      "expected " ++ expected.name ++ " variant, found " ++ found.name
    simp [text_joined, String.append_assoc]
  | notAReference found =>
    change (Display.joined [.verbatim "expected a reference variant, found ",
        .padded found.name]).text f = "expected a reference variant, found " ++ found.name
    simp [text_joined]

theorem Code.text_display_bytes (count : Int32) (f : TextFormat) :
    (bytes count).display.text f = (bytes count).text := by
  change (Display.joined [.number count.toInt, .verbatim " bytes"]).text f =
    intText count.toInt ++ " bytes"
  simp [text_joined]

theorem Code.text_display_unrecognized (n : Int32) (f : TextFormat) :
    (unrecognized n).display.text f = (unrecognized n).text := by
  change (Display.joined [.verbatim "unrecognized code ", .number n.toInt]).text f =
    "unrecognized code " ++ intText n.toInt
  simp [text_joined]

namespace Displayed

def obeysFormat : Displayed → Bool
  | kind _ | code (.named _) => true
  | _ => false

theorem display_of_obeysFormat {d : Displayed} (h : d.obeysFormat = true) :
    d.display = .padded d.text := by
  cases d with
  | kind => rfl
  | code c =>
    cases c with
    | named => rfl
    | bytes | unrecognized => cases h
  | _ => cases h

theorem formatted_of_not_obeysFormat {d : Displayed} (h : d.obeysFormat = false) (f : TextFormat) :
    d.formatted f = d.text := by
  cases d with
  | kind => cases h
  | code c =>
    cases c with
    | named => cases h
    | bytes count => exact Code.text_display_bytes count f
    | unrecognized n => exact Code.text_display_unrecognized n f
  | hostId id =>
    simp [formatted, display, text, HostId.display, HostId.text, text_joined, intText_natCast]
  | level l => simp [formatted, display, text, Console.Level.display, text_joined]
  | comparison c => simp [formatted, display, text, Comparison.display, text_joined]
  | decodeError e => exact e.text_display f
  | entropyFailure e => simp [formatted, display, text, Entropy.Failure.display, text_joined]
  | released => simp [formatted, display, text, Receipt.releasedDisplay, text_joined]
  | settingsError e =>
    simp [formatted, display, text, SettingsError.display, SettingsError.message, text_joined]

/-- What becomes of something displayed under formats with any sizes below `2 ^ 16`. A name is cut
and filled up; without a precision it is not cut, and without a width not filled. All else is
written out whatever the format is. -/
structure FormatLaw (d : Displayed) : Prop where
  sizes : ∀ fill alignment width precision f,
    TextFormat.ofSizes? fill alignment width precision = some f ↔
      f.fill = fill ∧ f.alignment = alignment ∧ f.width.map UInt16.toNat = width ∧
        f.precision.map UInt16.toNat = precision
  obeys : d.obeysFormat = true → ∀ f out, d.formatted f = out ↔
    ∃ kept before after, LaidOut f d.text.toList kept before after ∧
      out.toList = f.around before kept after
  whole : d.obeysFormat = true → ∀ f, f.precision = none →
    d.text.toList <:+: (d.formatted f).toList
  bare : d.obeysFormat = true → ∀ f, f.width = none →
    (d.formatted f).toList <+: d.text.toList
  ignores : d.obeysFormat = false → ∀ f, d.formatted f = d.text

theorem formats_reach_names_only (d : Displayed) : FormatLaw d where
  sizes _ _ _ _ _ := ofSizes?_eq_some_iff
  obeys h f out := by
    rw [formatted, display_of_obeysFormat h]
    exact text_padded_eq_iff
  whole h f hprecision := by
    rw [formatted, display_of_obeysFormat h]
    obtain ⟨kept, before, after, hlaid, hout⟩ := text_padded_eq_iff.mp rfl
    rw [hout]
    exact hlaid.infix_around hprecision
  bare h f hwidth := by
    rw [formatted, display_of_obeysFormat h]
    obtain ⟨kept, before, after, hlaid, hout⟩ := text_padded_eq_iff.mp rfl
    rw [hout]
    exact hlaid.around_prefix hwidth
  ignores := formatted_of_not_obeysFormat

example : (kind .null).formatted ⟨'*', some .centre, some 7, none⟩ = "*null**" ∧
    (decodeError (.notAReference .null)).formatted ⟨'*', some .centre, some 7, some 2⟩ =
      "expected a reference variant, found null" := by
  decide +kernel

end Displayed
end HostBridge
