import HostBridge.Text.Classes
import HostBridge.Text.Reader
import Mathlib.Data.List.TakeWhile

/-!
# The bytes of a text

A text in bytes is what its characters are in bytes, one after another. Only the character with the
number zero has a zero byte, and that is all it has. A text can be cut at a place unless that is
inside a character, between two of its bytes.
-/
namespace HostBridge

def utf8 (text : List Char) : List UInt8 := text.flatMap String.utf8EncodeChar

theorem toList_loop (array : ByteArray) (start : Nat) (before : List UInt8) :
    ByteArray.toList.loop array start before =
      before.reverse ++ array.data.toList.drop start := by
  fun_induction ByteArray.toList.loop array start before with
  | case1 start before h ih =>
    have hhead : array.get! start = array.data.toList.get ⟨start, h⟩ := by
      simp [ByteArray.get!, getElem!_pos array.data start h]
    rw [ih, List.drop_eq_getElem_cons h, hhead]
    simp
  | case2 start before h =>
    rw [List.drop_of_length_le (Nat.le_of_not_lt h), List.append_nil]

theorem toList_eq_data (array : ByteArray) : array.toList = array.data.toList :=
  toList_loop array 0 []

theorem toList_toUTF8 (text : String) : text.toUTF8.toList = utf8 text.toList := by
  rw [toList_eq_data, String.toUTF8, ← String.utf8Encode_toList, List.utf8Encode,
    List.toList_data_toByteArray, utf8]

theorem fromUTF8?_eq_some_iff {bytes : List UInt8} {text : String} :
    String.fromUTF8? ⟨bytes.toArray⟩ = some text ↔ bytes = utf8 text.toList := by
  rw [← toList_toUTF8, toList_eq_data]
  unfold String.fromUTF8?
  constructor
  · intro h
    split at h <;> cases h
    rfl
  · rintro rfl
    have hvalid : (ByteArray.mk text.toUTF8.data.toList.toArray).IsValidUTF8 := text.isValidUTF8
    rw [dif_pos hvalid]
    rfl

theorem length_utf8 (text : String) : (utf8 text.toList).length = text.utf8ByteSize := by
  rw [← toList_toUTF8, toList_eq_data]
  rfl

theorem zero_mem_utf8EncodeChar {c : Char} (h : 0 ∈ String.utf8EncodeChar c) :
    c = Char.ofNat 0 := by
  have hzero (n : Nat) (hn : 0 = UInt8.ofNat n) : n % 256 = 0 := by
    have hnat := congrArg UInt8.toNat hn
    rw [UInt8.toNat_ofNat'] at hnat
    exact hnat.symm
  have hval : c.val.toNat = 0 := by
    unfold String.utf8EncodeChar at h
    dsimp only at h
    split at h
    · have hmod := hzero _ (List.mem_singleton.mp h)
      omega
    · -- Every byte of a longer character has its highest bit set.
      split at h
      · simp only [List.mem_cons, List.not_mem_nil, or_false] at h
        rcases h with h | h <;> have hmod := hzero _ h <;> omega
      · split at h
        · simp only [List.mem_cons, List.not_mem_nil, or_false] at h
          rcases h with h | h | h <;> have hmod := hzero _ h <;> omega
        · simp only [List.mem_cons, List.not_mem_nil, or_false] at h
          rcases h with h | h | h | h <;> have hmod := hzero _ h <;> omega
  exact Char.ext (UInt32.toNat_inj.mp hval)

theorem byteCount_append (front back : List Char) :
    byteCount (front ++ back) = byteCount front + byteCount back := totalOf_append ..

theorem byteCount_cons (c : Char) (text : List Char) :
    byteCount (c :: text) = c.utf8Size + byteCount text := rfl

theorem byteCount_pos {text : List Char} (h : text ≠ []) : 0 < byteCount text := by
  cases text with
  | nil => exact absurd rfl h
  | cons c rest => exact Nat.add_pos_left c.utf8Size_pos _

theorem takeBytes_spec {text front : List Char} {count : Nat}
    (h : takeBytes count text = .ok front) : front <+: text ∧ byteCount front ≤ count := by
  induction text generalizing count front with
  | nil =>
    cases h
    exact ⟨List.prefix_rfl, Nat.zero_le _⟩
  | cons c rest ih =>
    rw [takeBytes] at h
    split at h
    · cases h
      exact ⟨List.nil_prefix, Nat.zero_le _⟩
    · split at h
      · cases h
      · cases hrest : takeBytes (count - c.utf8Size) rest with
        | error e =>
          rw [hrest] at h
          cases h
        | ok taken =>
          rw [hrest] at h
          cases h
          obtain ⟨hstart, hcount⟩ := ih hrest
          refine ⟨List.cons_prefix_cons.mpr ⟨rfl, hstart⟩, ?_⟩
          change c.utf8Size + byteCount taken ≤ count
          omega

theorem upTo_byteCount (edge : Edge) (front back : List Char) :
    upTo edge (byteCount front) (front ++ back) = .ok front := by
  rw [upTo, takeBytes_byteCount]
  rfl

def IsInside (text : List Char) (place : Nat) : Prop :=
  ∃ front c back, text = front ++ c :: back ∧ byteCount front < place ∧
    place < byteCount front + c.utf8Size

theorem isInside_cons {c : Char} {rest : List Char} {place : Nat} :
    IsInside (c :: rest) place ↔ 0 < place ∧ place < c.utf8Size ∨
      c.utf8Size ≤ place ∧ IsInside rest (place - c.utf8Size) := by
  constructor
  · rintro ⟨front, x, back, hsplit, hafter, hbefore⟩
    cases front with
    | nil =>
      obtain ⟨rfl, rfl⟩ := List.cons.inj hsplit
      exact .inl ⟨hafter, (Nat.zero_add c.utf8Size) ▸ hbefore⟩
    | cons y front =>
      obtain ⟨rfl, rfl⟩ := List.cons.inj hsplit
      rw [byteCount_cons] at hafter hbefore
      exact .inr ⟨by omega, front, x, back, rfl, by omega, by omega⟩
  · rintro (⟨hpos, hlt⟩ | ⟨hle, front, x, back, rfl, hafter, hbefore⟩)
    · exact ⟨[], c, rest, rfl, hpos, (Nat.zero_add c.utf8Size).symm ▸ hlt⟩
    · exact ⟨c :: front, x, back, rfl, by rw [byteCount_cons]; omega,
        by rw [byteCount_cons]; omega⟩

theorem exists_takeBytes_iff {text : List Char} {place : Nat} :
    (∃ front, takeBytes place text = .ok front) ↔ ¬ IsInside text place := by
  induction text generalizing place with
  | nil => exact iff_of_true ⟨[], rfl⟩ (by rintro ⟨front, _, _, h, -⟩; simp at h)
  | cons c rest ih =>
    rw [isInside_cons, takeBytes]
    split
    · exact iff_of_true ⟨[], rfl⟩ (by have := c.utf8Size_pos; omega)
    · split
      · exact iff_of_false (by rintro ⟨_, ⟨⟩⟩) (by omega)
      · have hrest : (∃ front, (c :: ·) <$> takeBytes (place - c.utf8Size) rest = .ok front) ↔
            ∃ front, takeBytes (place - c.utf8Size) rest = .ok front := by
          cases takeBytes (place - c.utf8Size) rest with
          | error => exact iff_of_false (by rintro ⟨_, ⟨⟩⟩) (by rintro ⟨_, ⟨⟩⟩)
          | ok taken => exact iff_of_true ⟨_, rfl⟩ ⟨_, rfl⟩
        rw [hrest, ih]
        have hno : ¬ (0 < place ∧ place < c.utf8Size) := by omega
        have hyes : c.utf8Size ≤ place := by omega
        simp only [hno, hyes, true_and, false_or]

theorem not_isInside_of_prefix {front text : List Char} (h : front <+: text) :
    ¬ IsInside text (byteCount front) := by
  obtain ⟨back, rfl⟩ := h
  exact exists_takeBytes_iff.mp ⟨front, takeBytes_byteCount front back⟩

theorem not_isInside_of_narrow {text : List Char} (h : ∀ c ∈ text, c.utf8Size = 1) (place : Nat) :
    ¬ IsInside text place := by
  rintro ⟨front, c, back, rfl, hafter, hbefore⟩
  have hc := h c (by simp)
  omega

theorem exists_upTo_iff (edge : Edge) {place : Nat} {text : List Char} :
    (∃ front, upTo edge place text = .ok front) ↔ ¬ IsInside text place := by
  rw [← exists_takeBytes_iff, upTo]
  cases takeBytes place text with
  | error => exact iff_of_false (by rintro ⟨_, ⟨⟩⟩) (by rintro ⟨_, ⟨⟩⟩)
  | ok front => exact iff_of_true ⟨_, rfl⟩ ⟨_, rfl⟩

theorem exists_piece_iff {text : List Char} {first last : Nat} :
    (∃ between, piece text first last = .ok between) ↔
      ¬ IsInside text first ∧ ¬ IsInside text last := by
  rw [← exists_upTo_iff .start, ← exists_upTo_iff .stop, piece]
  cases upTo .start first text with
  | error => exact iff_of_false (by rintro ⟨_, ⟨⟩⟩) (by rintro ⟨⟨_, ⟨⟩⟩, -⟩)
  | ok before =>
    cases upTo .stop last text with
    | error => exact iff_of_false (by rintro ⟨_, ⟨⟩⟩) (by rintro ⟨-, _, ⟨⟩⟩)
    | ok whole => exact iff_of_true ⟨_, rfl⟩ ⟨⟨_, rfl⟩, _, rfl⟩

theorem exists_pieceFrom_iff {text : List Char} {first : Nat} :
    (∃ after, pieceFrom text first = .ok after) ↔ ¬ IsInside text first := by
  rw [← exists_upTo_iff .start, pieceFrom]
  cases upTo .start first text with
  | error => exact iff_of_false (by rintro ⟨_, ⟨⟩⟩) (by rintro ⟨_, ⟨⟩⟩)
  | ok before => exact iff_of_true ⟨_, rfl⟩ ⟨_, rfl⟩

theorem dropWhile_append_cons {p : Char → Bool} {x : Char} (hx : p x = false)
    (front back : List Char) :
    (front ++ x :: back).dropWhile p = front.dropWhile p ++ x :: back := by
  induction front with
  | nil => simp [hx]
  | cons c front ih =>
    rw [List.cons_append, List.dropWhile_cons, List.dropWhile_cons]
    split
    · exact ih
    · rfl

theorem trimBlanks_append_cons {x : Char} (hx : isBlank x = false) (front back : List Char) :
    ∃ kept tail, trimBlanks (front ++ x :: back) = front.dropWhile isBlank ++ x :: kept ∧
      back = kept ++ tail := by
  refine ⟨(back.reverse.dropWhile isBlank).reverse, (back.reverse.takeWhile isBlank).reverse,
    ?_, ?_⟩
  · rw [trimBlanks, dropWhile_append_cons hx, List.reverse_append, List.reverse_cons,
      List.append_assoc, List.singleton_append, dropWhile_append_cons hx]
    simp
  · rw [← List.reverse_append, List.takeWhile_append_dropWhile, List.reverse_reverse]

theorem trimBlanks_isPrefix {text : List Char} (h : ∀ c ∈ text.head?, isBlank c = false) :
    trimBlanks text <+: text := by
  cases text with
  | nil => exact List.prefix_rfl
  | cons c rest =>
    obtain ⟨kept, tail, hkept, hrest⟩ := trimBlanks_append_cons (h c rfl) [] rest
    exact ⟨tail, by rw [List.nil_append] at hkept; rw [hkept, hrest]; rfl⟩

end HostBridge
