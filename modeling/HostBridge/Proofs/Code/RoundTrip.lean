import HostBridge.Code

/-!
# Numbers and codes

The host lists its numbers in one table and the codes carry theirs in another. Reading a number by
the first and writing the code by the second gives the number back, but for the connection that
timed out, which shares the code of a plain time-out. The other way round, a count that is not
positive and an unrecognized number that is not one do not come back.
-/
namespace HostBridge

namespace NamedCode

def all : List NamedCode :=
  [ok, completionPending, failed, aborted, badArgument, badResource, noInterface, noAccess,
    noMemory, noSpace, noQuota, inProgress, notSupported, blocksMainThread, fileNotFound,
    fileExists, fileTooBig, fileChanged, notAFile, timedOut, userCancel, noUserGesture,
    contextLost, noMessageLoop, wrongThread, connectionClosed, connectionReset,
    connectionRefused, connectionAborted]

theorem mem_all (c : NamedCode) : c ∈ all := by
  cases c <;> decide

theorem number_injective {c d : NamedCode} (h : c.number = d.number) : c = d := by
  have hpairs : ∀ c ∈ all, ∀ d ∈ all, c.number = d.number → c = d := by decide
  exact hpairs c c.mem_all d d.mem_all h

theorem number_nonpos (c : NamedCode) : c.number ≤ 0 := by
  cases c <;> decide

theorem number_ne_connectionTimedOut (c : NamedCode) : c.number ≠ Code.connectionTimedOut := by
  cases c <;> decide

theorem find?_number_eq_some_iff {n : Int32} {c : NamedCode} :
    all.find? (·.number == n) = some c ↔ c.number = n := by
  constructor
  · intro h
    have hc := List.find?_some h
    exact eq_of_beq hc
  · rintro rfl
    cases h : all.find? (·.number == c.number) with
    | none => exact absurd (beq_self_eq_true _) (List.find?_eq_none.mp h c c.mem_all)
    | some d =>
      have hd := List.find?_some h
      rw [number_injective (eq_of_beq hd)]

theorem find?_number_eq_none_iff {n : Int32} :
    all.find? (·.number == n) = none ↔ ∀ c : NamedCode, c.number ≠ n := by
  rw [Option.eq_none_iff_forall_ne_some]
  exact forall_congr' fun c => not_congr find?_number_eq_some_iff

end NamedCode

namespace Code

inductive Reads (n : Int32) : Code → Prop
  | named (c : NamedCode) (number : c.number = n) : Reads n (.named c)
  | timedOut (number : n = connectionTimedOut) : Reads n (.named .timedOut)
  | bytes (positive : 0 < n) : Reads n (.bytes n)
  | unrecognized (nonpos : n ≤ 0) (unnamed : ∀ c : NamedCode, c.number ≠ n)
      (other : n ≠ connectionTimedOut) : Reads n (.unrecognized n)

theorem lookup_map_number (l : List NamedCode) (n : Int32) :
    (l.map fun c => (c.number, c)).lookup n = l.find? (·.number == n) := by
  induction l with
  | nil => rfl
  | cons c l ih =>
    rw [List.map_cons, List.lookup_cons, List.find?_cons, ih, BEq.comm]

theorem lookup_listed_eq_some_iff {n : Int32} {c : NamedCode} :
    listed.lookup n = some c ↔ c.number = n ∨ c = .timedOut ∧ n = connectionTimedOut := by
  have hlisted : listed =
      NamedCode.all.map (fun c => (c.number, c)) ++ [(connectionTimedOut, .timedOut)] := rfl
  rw [hlisted, List.lookup_append, lookup_map_number]
  cases hfind : NamedCode.all.find? (·.number == n) with
  | some d =>
    have hd := NamedCode.find?_number_eq_some_iff.mp hfind
    subst hd
    simp only [Option.some_or, Option.some.injEq]
    constructor
    · rintro rfl
      exact .inl rfl
    · rintro (h | ⟨-, h⟩)
      · exact (NamedCode.number_injective h).symm
      · exact absurd h d.number_ne_connectionTimedOut
  | none =>
    have hunnamed := NamedCode.find?_number_eq_none_iff.mp hfind c
    by_cases htimed : n = connectionTimedOut
    · subst htimed
      simp [hunnamed, eq_comm]
    · have hother : (n == connectionTimedOut) = false := beq_eq_false_iff_ne.mpr htimed
      simp [List.lookup_cons, hunnamed, hother, htimed]

theorem lookup_listed_eq_none_iff {n : Int32} : listed.lookup n = none ↔
    (∀ c : NamedCode, c.number ≠ n) ∧ n ≠ connectionTimedOut := by
  rw [Option.eq_none_iff_forall_ne_some]
  simp only [ne_eq, lookup_listed_eq_some_iff, not_or, forall_and]
  exact and_congr_right fun _ => ⟨fun h hn => h _ ⟨rfl, hn⟩, fun h _ hn => h hn.2⟩

theorem reads_ofNumber (n : Int32) : Reads n (ofNumber n) := by
  unfold ofNumber
  cases hfind : listed.lookup n with
  | some c =>
    rcases lookup_listed_eq_some_iff.mp hfind with hc | ⟨rfl, htimed⟩
    · exact .named c hc
    · exact .timedOut htimed
  | none =>
    obtain ⟨hunnamed, hother⟩ := lookup_listed_eq_none_iff.mp hfind
    by_cases hpos : 0 < n
    · simpa only [if_pos hpos] using .bytes hpos
    · simpa only [if_neg hpos] using .unrecognized (Int32.not_lt.mp hpos) hunnamed hother

theorem ofNumber_of_reads {n : Int32} {c : Code} (h : Reads n c) : ofNumber n = c := by
  cases h with
  | named c h => rw [ofNumber, lookup_listed_eq_some_iff.mpr (.inl h)]
  | timedOut h => rw [ofNumber, lookup_listed_eq_some_iff.mpr (.inr ⟨rfl, h⟩)]
  | bytes hpos =>
    -- All numbers with a code are at most zero.
    have hunnamed : ∀ c : NamedCode, c.number ≠ n := by
      rintro c rfl
      exact Int32.not_lt.mpr c.number_nonpos hpos
    have hother : n ≠ connectionTimedOut := by
      rintro rfl
      exact absurd hpos (by decide)
    rw [ofNumber, lookup_listed_eq_none_iff.mpr ⟨hunnamed, hother⟩]
    simp only [if_pos hpos]
  | unrecognized hnonpos hunnamed hother =>
    rw [ofNumber, lookup_listed_eq_none_iff.mpr ⟨hunnamed, hother⟩]
    simp only [if_neg (Int32.not_lt.mpr hnonpos)]

theorem ofNumber_eq_iff {n : Int32} {c : Code} : ofNumber n = c ↔ Reads n c :=
  ⟨fun h => h ▸ reads_ofNumber n, ofNumber_of_reads⟩

theorem isOk_named (c : NamedCode) : (named c).isOk = true ↔ -1 ≤ c.number := by
  cases c <;> decide

theorem Reads.isOk_iff {n : Int32} {c : Code} (h : Reads n c) : c.isOk = true ↔ -1 ≤ n := by
  cases h with
  | named c h => exact h ▸ isOk_named c
  | timedOut h =>
    subst h
    decide
  | bytes hpos =>
    have hone : (-1 : Int32) ≤ 0 := by decide
    exact iff_of_true rfl (Int32.le_trans hone (Int32.le_of_lt hpos))
  | unrecognized hnonpos hunnamed hother =>
    have hzero : (0 : Int32) ≠ n := hunnamed .ok
    have hpending : (-1 : Int32) ≠ n := hunnamed .completionPending
    refine iff_of_false Bool.false_ne_true fun hle => ?_
    rw [Ne, ← Int32.toInt_inj] at hzero hpending
    rw [Int32.le_iff_toInt_le] at hnonpos hle
    simp only [Int32.reduceToInt, Int32.toInt_zero] at hzero hpending hnonpos hle
    omega

theorem Reads.number_eq {n : Int32} {c : Code} (h : Reads n c) :
    c.number = if n = connectionTimedOut then -30 else n := by
  cases h with
  | named c h =>
    subst h
    exact (if_neg c.number_ne_connectionTimedOut).symm
  | timedOut h => exact (if_pos h).symm
  | bytes hpos =>
    refine (if_neg ?_).symm
    rintro rfl
    exact absurd hpos (by decide)
  | unrecognized _ _ hother => exact (if_neg hother).symm

/-- The codes that numbers are read as. -/
def IsCanonical : Code → Prop
  | named _ => True
  | bytes count => 0 < count
  | unrecognized k => k ≤ 0 ∧ (∀ c : NamedCode, c.number ≠ k) ∧ k ≠ connectionTimedOut

theorem reads_number_iff {c : Code} : Reads c.number c ↔ c.IsCanonical := by
  cases c with
  | named c => exact iff_of_true (.named c rfl) trivial
  | bytes count =>
    constructor
    · rintro ⟨⟩
      assumption
    · exact .bytes
  | unrecognized k =>
    constructor
    · intro h
      cases h with
      | unrecognized hnonpos hunnamed hother => exact ⟨hnonpos, hunnamed, hother⟩
    · rintro ⟨hnonpos, hunnamed, hother⟩
      exact .unrecognized hnonpos hunnamed hother

theorem ofNumber_number_eq_iff {c : Code} : ofNumber c.number = c ↔ c.IsCanonical :=
  ofNumber_eq_iff.trans reads_number_iff

example : ofNumber (bytes (-2)).number = named .failed := by decide

example : ofNumber (unrecognized 5).number = bytes 5 := by decide

theorem Reads.isCanonical {n : Int32} {c : Code} (h : Reads n c) : c.IsCanonical := by
  cases h with
  | named | timedOut => exact trivial
  | bytes hpos => exact hpos
  | unrecognized hnonpos hunnamed hother => exact ⟨hnonpos, hunnamed, hother⟩

theorem isOk_ne_iff {c : Code} : c.isOk ≠ (ofNumber c.number).isOk ↔
    (∃ k, c = bytes k ∧ k < -1) ∨ ∃ k, c = unrecognized k ∧ -1 ≤ k := by
  have hread := (reads_ofNumber c.number).isOk_iff
  cases c with
  | named c =>
    have hsame : ofNumber (named c).number = named c := ofNumber_number_eq_iff.mpr trivial
    simp [hsame]
  | bytes k =>
    have hok : (bytes k).isOk = true := rfl
    rw [hok, ne_comm, Ne, hread, number, Int32.not_le]
    simp
  | unrecognized k =>
    have hnot : (unrecognized k).isOk = false := rfl
    rw [hnot, ne_comm, Ne, Bool.not_eq_false, hread, number]
    simp

theorem Reads.receive_eq {n : Int32} {c : Code} (h : Reads n c) :
    receive n = (c, c.warnings) := by
  rw [receive, ofNumber_of_reads h]

/-- What reading a number does. The list that is read and the table that is written name the same
codes, but for the second number that one code has in the list. One warning goes with a number that
is not recognized, and none with any other. -/
structure NumberLaw (n : Int32) : Prop where
  lookup : ofNumber n =
    match listed.lookup n with
    | some c => named c
    | none => if 0 < n then bytes n else unrecognized n
  named_iff : ∀ name, ofNumber n = named name ↔
    name.number = n ∨ name = .timedOut ∧ n = -105
  number : (ofNumber n).number = if n = -105 then -30 else n
  again : ofNumber (ofNumber n).number = ofNumber n
  isOk_iff : (ofNumber n).isOk = true ↔ -1 ≤ n
  bytes_iff : ∀ count, ofNumber n = bytes count ↔ count = n ∧ 0 < n
  warned : ∀ k, ofNumber n = unrecognized k → receive n =
    (unrecognized n, [⟨.warn, "plugbridge_core::code", "unrecognized host result code",
      [.bare "code" (intText n.toInt)]⟩])
  silent : (∀ k, ofNumber n ≠ unrecognized k) → receive n = (ofNumber n, [])

/-- What becomes of a code that is written and read again: which codes come back, and which change
sides between success and failure. -/
structure CodeLaw (c : Code) : Prop where
  returns_iff : ofNumber c.number = c ↔ (∃ name, c = named name) ∨ (∃ k, c = bytes k ∧ 0 < k) ∨
    ∃ k, c = unrecognized k ∧ k ≤ 0 ∧ (∀ name : NamedCode, name.number ≠ k) ∧ k ≠ -105
  isOk_ne_iff : c.isOk ≠ (ofNumber c.number).isOk ↔
    (∃ k, c = bytes k ∧ k < -1) ∨ ∃ k, c = unrecognized k ∧ -1 ≤ k

theorem numberLaw (n : Int32) : NumberLaw n where
  lookup := rfl
  named_iff name := by
    rw [ofNumber_eq_iff]
    constructor
    · rintro (⟨_, h⟩ | h)
      · exact .inl h
      · exact .inr ⟨rfl, h⟩
    · rintro (h | ⟨rfl, h⟩)
      · exact .named name h
      · exact .timedOut h
  number := (reads_ofNumber n).number_eq
  again := ofNumber_number_eq_iff.mpr (reads_ofNumber n).isCanonical
  isOk_iff := (reads_ofNumber n).isOk_iff
  bytes_iff count := by
    rw [ofNumber_eq_iff]
    constructor
    · rintro ⟨⟩
      exact ⟨rfl, by assumption⟩
    · rintro ⟨rfl, hpos⟩
      exact .bytes hpos
  warned k hk := by
    rw [ofNumber_eq_iff] at hk
    cases hk with
    | unrecognized hnonpos hunnamed hother =>
      exact (Reads.unrecognized hnonpos hunnamed hother).receive_eq
  silent hother := by
    rw [(reads_ofNumber n).receive_eq]
    cases h : ofNumber n with
    | named | bytes => rfl
    | unrecognized k => exact absurd h (hother k)

theorem codeLaw (c : Code) : CodeLaw c := by
  refine ⟨?_, isOk_ne_iff⟩
  rw [ofNumber_number_eq_iff]
  cases c <;> simp [IsCanonical, connectionTimedOut]

theorem codes_round_trip : (∀ n, NumberLaw n) ∧ ∀ c, CodeLaw c :=
  ⟨numberLaw, codeLaw⟩

end Code
end HostBridge
