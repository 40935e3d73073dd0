import HostBridge.Proofs.Number.Positional
import HostBridge.Proofs.Value.Image

/-!
# What the text of a cell tells

The text of a cell of a known kind is the label of the kind, and the payload in brackets if there is
one. No label has a bracket, and none starts as the text of the other cells does; there the numerals
have no comma, so tag and reserved word end where one comes. Every part can thus be cut out and read
back, up to the bits of a NaN, which are not written.
-/
namespace HostBridge

inductive SameButNaN : Value → Value → Prop
  | same {v : Value} : SameButNaN v v
  | nan {x y : Double} : x.isNaN = true → y.isNaN = true → SameButNaN (.double x) (.double y)

inductive PrintAlike (a b : Cell) : Prop
  | unknown : a.kind? = none → b.kind? = none → a.tag = b.tag → a.reserved = b.reserved →
      a.lowWord = b.lowWord → PrintAlike a b
  | known {v w : Value} : Value.decode a = .ok v → Value.decode b = .ok w → SameButNaN v w →
      PrintAlike a b

theorem takeWhile_ne_of_head? {c : Char} {front back : List Char} (hfront : c ∉ front)
    (hback : back = [] ∨ back.head? = some c) : (front ++ back).takeWhile (· != c) = front := by
  have hall : ∀ d ∈ front, (d != c) = true := fun d hd =>
    bne_iff_ne.mpr fun heq => hfront (heq ▸ hd)
  rw [List.takeWhile_append_of_pos hall]
  cases back with
  | nil => exact List.append_nil front
  | cons d rest =>
    obtain rfl : d = c := by simpa using hback
    simp

theorem eq_of_intText_append {i j : Int} {separator s t : String}
    (hseparator : separator.toList.head? = some ',')
    (h : intText i ++ (separator ++ s) = intText j ++ (separator ++ t)) : i = j ∧ s = t := by
  have hcut (k : Int) (u : String) :
      (intText k ++ (separator ++ u)).toList.takeWhile (· != ',') = intChars k := by
    rw [String.toList_append, intText, String.toList_ofList]
    refine takeWhile_ne_of_head? (not_mem_intChars (by decide) (by decide) k) (.inr ?_)
    rw [String.toList_append, List.head?_append, hseparator]
    rfl
  obtain rfl : i = j := intChars_injective (by rw [← hcut i s, h, hcut])
  exact ⟨rfl, (String.append_right_inj _).mp ((String.append_right_inj _).mp h)⟩

def bracketed : Option String → String
  | none => ""
  | some content => "(" ++ (content ++ ")")

theorem bracketed_injective : Function.Injective bracketed := by
  intro s t h
  cases s <;> cases t <;> simp_all [bracketed]

theorem append_bracketed (label content : String) :
    label ++ bracketed (some content) = label ++ "(" ++ content ++ ")" := by
  simp only [bracketed, String.append_assoc]

def heading (text : String) : List Char := text.toList.takeWhile (· != '(')

namespace Kind

theorem label_injective : Function.Injective label := by
  have hall : ∀ a ∈ all, ∀ b ∈ all, a.label = b.label → a = b := by decide
  exact fun a b => hall a a.mem_all b b.mem_all

theorem heading_label (kind : Kind) (content : Option String) :
    heading (kind.label ++ bracketed content) = kind.label.toList := by
  have hall : ∀ a ∈ all, '(' ∉ a.label.toList := by decide
  rw [heading, String.toList_append]
  refine takeWhile_ne_of_head? (hall kind kind.mem_all) ?_
  cases content <;> simp [bracketed]

end Kind

namespace Value

def content? : Value → Option String
  | undefined | null => none
  | bool b => some (boolText b)
  | int32 i => some (intText i.toInt)
  | double x => some (x.text .positional)
  | reference _ id => some ("#" ++ natText id.number.toNat)

theorem boolText_injective : Function.Injective boolText := by decide

theorem sameButNaN_of_content? {v w : Value} (hkind : v.kind = w.kind)
    (h : v.content? = w.content?) : SameButNaN v w := by
  cases v with
  | undefined | null =>
    cases w with
    | undefined | null => first | exact .same | cases hkind
    | _ => cases hkind
  | bool b =>
    cases w with
    | bool b' => exact boolText_injective (Option.some.inj h) ▸ .same
    | _ => cases hkind
  | int32 i =>
    cases w with
    | int32 i' => exact Int32.toInt_inj.mp (intText_injective (Option.some.inj h)) ▸ .same
    | _ => cases hkind
  | double x =>
    cases w with
    | double y =>
      rcases Double.text_positional_eq_iff.mp (Option.some.inj h) with rfl | ⟨hx, hy⟩
      · exact .same
      · exact .nan hx hy
    | _ => cases hkind
  | reference kind id =>
    cases w with
    | reference kind' id' =>
      have hnumber := natText_injective ((String.append_right_inj _).mp (Option.some.inj h))
      obtain rfl : kind = kind' := Kind.reference.inj hkind
      obtain rfl : id = id' := congrArg HostId.mk (UInt64.toNat_inj.mp hnumber)
      exact .same
    | _ => cases hkind

theorem kind_eq_of_sameButNaN {v w : Value} (h : SameButNaN v w) : v.kind = w.kind := by
  cases h <;> rfl

theorem content?_eq_of_sameButNaN {v w : Value} (h : SameButNaN v w) :
    v.content? = w.content? := by
  cases h with
  | same => rfl
  | nan hx hy => exact congrArg some (Double.text_positional_eq_iff.mpr (.inr ⟨hx, hy⟩))

end Value

namespace Cell

variable {c : Cell}

theorem text_of_decode {v : Value} (h : Value.decode c = .ok v) :
    c.text = v.kind.label ++ bracketed v.content? := by
  unfold Value.decode at h
  split at h
  · next kind hkind =>
    cases h
    unfold text
    rw [hkind]
    cases kind with
    | undefined | null => rfl
    | bool => exact (append_bracketed "Bool" _).symm
    | int32 => exact (append_bracketed "Int32" _).symm
    | double => exact (append_bracketed "Double" _).symm
    | reference kind =>
      have hmark : "(#" = "(" ++ "#" := rfl
      show kind.label ++ "(#" ++ natText c.readId.toNat ++ ")" =
        kind.label ++ bracketed (some ("#" ++ natText c.readId.toNat))
      rw [append_bracketed, hmark]
      simp only [String.append_assoc]
  · cases h

theorem text_of_unknown (h : c.kind? = none) :
    c.text = "RawVar \x7b kind: " ++ (intText c.tag.toInt ++ (", reserved: " ++
      (intText c.reserved.toInt ++ (", value: 0x" ++ (hexText 8 c.lowWord.toNat ++ " \x7d"))))) := by
  have hmeaningful : c.meaningful.toNat = c.lowWord.toNat := by
    rw [meaningful, h]
    exact UInt32.toNat_toUInt64 _
  rw [text, h, hmeaningful]
  simp only [String.append_assoc]

theorem head_text_of_decode {v : Value} (h : Value.decode c = .ok v) :
    c.text.toList.head? ≠ some 'R' := by
  have hall : ∀ kind ∈ Kind.all, kind.label.toList ≠ [] ∧ kind.label.toList.head? ≠ some 'R' := by
    decide
  obtain ⟨hne, hhead⟩ := hall v.kind v.kind.mem_all
  rw [text_of_decode h, String.toList_append, List.head?_append_of_ne_nil _ hne]
  exact hhead

theorem head_text_of_unknown (h : c.kind? = none) : c.text.toList.head? = some 'R' := by
  rw [text_of_unknown h, String.toList_append]
  rfl

theorem exists_decode_or_unknown (c : Cell) :
    (∃ v, Value.decode c = .ok v) ∨ c.kind? = none := by
  unfold Value.decode
  cases c.kind? with
  | some kind => exact .inl ⟨_, rfl⟩
  | none => exact .inr rfl

variable {a b : Cell}

theorem text_ne_of_unknown {w : Value} (ha : a.kind? = none) (hb : Value.decode b = .ok w) :
    a.text ≠ b.text := by
  intro h
  apply head_text_of_decode hb
  rw [← h, head_text_of_unknown ha]

theorem sameButNaN_of_text {v w : Value} (ha : Value.decode a = .ok v)
    (hb : Value.decode b = .ok w) (h : a.text = b.text) : SameButNaN v w := by
  rw [text_of_decode ha, text_of_decode hb] at h
  have hlabel : v.kind.label = w.kind.label := by
    apply String.toList_injective
    rw [← Kind.heading_label v.kind v.content?, h, Kind.heading_label]
  have hkind := Kind.label_injective hlabel
  rw [hkind, String.append_right_inj] at h
  exact Value.sameButNaN_of_content? hkind (bracketed_injective h)

theorem parts_eq_of_text (ha : a.kind? = none) (hb : b.kind? = none) (h : a.text = b.text) :
    a.tag = b.tag ∧ a.reserved = b.reserved ∧ a.lowWord = b.lowWord := by
  rw [text_of_unknown ha, text_of_unknown hb, String.append_right_inj] at h
  obtain ⟨htag, h⟩ := eq_of_intText_append rfl h
  obtain ⟨hreserved, h⟩ := eq_of_intText_append rfl h
  have hword := hexText_injective 8 ((String.append_left_inj _).mp h)
  exact ⟨Int32.toInt_inj.mp htag, Int32.toInt_inj.mp hreserved, UInt32.toNat_inj.mp hword⟩

theorem printAlike_of_text (h : a.text = b.text) : PrintAlike a b := by
  rcases exists_decode_or_unknown a with ⟨v, ha⟩ | ha <;>
    rcases exists_decode_or_unknown b with ⟨w, hb⟩ | hb
  · exact .known ha hb (sameButNaN_of_text ha hb h)
  · exact absurd h.symm (text_ne_of_unknown hb ha)
  · exact absurd h (text_ne_of_unknown ha hb)
  · obtain ⟨htag, hreserved, hword⟩ := parts_eq_of_text ha hb h
    exact .unknown ha hb htag hreserved hword

theorem text_eq_of_printAlike (h : PrintAlike a b) : a.text = b.text := by
  cases h with
  | unknown ha hb htag hreserved hword =>
    rw [text_of_unknown ha, text_of_unknown hb, htag, hreserved, hword]
  | known ha hb h =>
    rw [text_of_decode ha, text_of_decode hb, Value.kind_eq_of_sameButNaN h,
      Value.content?_eq_of_sameButNaN h]

end Cell

/-- The text of a cell tells the value, up to NaNs, and whether there is one. -/
structure PrintingLaw (a b : Cell) : Prop where
  alike : a.text = b.text ↔ PrintAlike a b
  identified : ∀ v w, Value.decode a = .ok v → Value.decode b = .ok w → a.text = b.text →
    SameButNaN v w
  apart : ∀ w, a.kind? = none → Value.decode b = .ok w → a.text ≠ b.text

theorem texts_identify_cells (a b : Cell) : PrintingLaw a b := by
  constructor
  · exact ⟨Cell.printAlike_of_text, Cell.text_eq_of_printAlike⟩
  · exact fun v w => Cell.sameButNaN_of_text
  · exact fun w => Cell.text_ne_of_unknown

example : Cell.text ⟨10, -1, 0xDEADBEEF00000005⟩ =
    "RawVar \x7b kind: 10, reserved: -1, value: 0x00000005 \x7d" := by decide

end HostBridge
