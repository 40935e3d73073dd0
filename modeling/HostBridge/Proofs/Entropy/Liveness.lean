import HostBridge.Entropy.Source
import HostBridge.Total

/-!
# The liveness check

A fill by a source is checked: zeros alone do not count as random bytes. Whatever the source does to
the buffer and to its own state, the check lets its errors pass as they are and adds one of its own.
How often the source is asked shows in a source that keeps a list of the calls it gets.
-/
namespace HostBridge.Entropy

variable {σ : Type}

theorem gotData_iff (buffer : List UInt8) : gotData buffer = true ↔ ∃ byte ∈ buffer, byte ≠ 0 := by
  simp [gotData, foldl_or_eq_zero]

namespace Fill

variable {asked : Fill σ}

def checked (asked : Fill σ) : Fill σ :=
  match asked.outcome with
  | .error _ => asked
  | .ok () =>
    if gotData asked.buffer then asked
    else
      { asked with
        outcome := .error .insufficientEntropy
        records := asked.records ++ [allZeroRecord asked.buffer.length] }

theorem checked_of_error {e : Failure} (h : asked.outcome = .error e) : asked.checked = asked := by
  rw [checked, h]

theorem checked_of_data (h : asked.outcome = .ok ()) (hdata : ∃ byte ∈ asked.buffer, byte ≠ 0) :
    asked.checked = asked := by
  rw [checked, h]
  exact if_pos ((gotData_iff _).mpr hdata)

theorem checked_of_zeros (h : asked.outcome = .ok ()) (hzeros : ∀ byte ∈ asked.buffer, byte = 0) :
    asked.checked =
      { asked with
        outcome := .error .insufficientEntropy
        records := asked.records ++ [allZeroRecord asked.buffer.length] } := by
  have hnone : ¬gotData asked.buffer = true := by
    rw [gotData_iff]
    rintro ⟨byte, hmem, hne⟩
    exact hne (hzeros byte hmem)
  rw [checked, h]
  exact if_neg hnone

theorem cases_checked (asked : Fill σ) :
    (∃ e, asked.outcome = .error e) ∨
      asked.outcome = .ok () ∧
        ((∃ byte ∈ asked.buffer, byte ≠ 0) ∨ ∀ byte ∈ asked.buffer, byte = 0) := by
  cases h : asked.outcome with
  | error e => exact .inl ⟨e, rfl⟩
  | ok =>
    refine .inr ⟨rfl, ?_⟩
    by_cases hdata : ∃ byte ∈ asked.buffer, byte ≠ 0
    · exact .inl hdata
    · exact .inr (by simpa using hdata)

theorem buffer_checked (asked : Fill σ) : asked.checked.buffer = asked.buffer := by
  rcases asked.cases_checked with ⟨e, h⟩ | ⟨h, hdata | hzeros⟩
  · rw [checked_of_error h]
  · rw [checked_of_data h hdata]
  · rw [checked_of_zeros h hzeros]

theorem state_checked (asked : Fill σ) : asked.checked.state = asked.state := by
  rcases asked.cases_checked with ⟨e, h⟩ | ⟨h, hdata | hzeros⟩
  · rw [checked_of_error h]
  · rw [checked_of_data h hdata]
  · rw [checked_of_zeros h hzeros]

theorem checked_ok_iff : asked.checked.outcome = .ok () ↔
    asked.outcome = .ok () ∧ ∃ byte ∈ asked.buffer, byte ≠ 0 := by
  rcases asked.cases_checked with ⟨e, h⟩ | ⟨h, hdata | hzeros⟩
  · simp [checked_of_error h, h]
  · simp [checked_of_data h hdata, h, hdata]
  · simpa [checked_of_zeros h hzeros, h] using hzeros

theorem checked_error_iff {e : Failure} : asked.checked.outcome = .error e ↔
    asked.outcome = .error e ∨
      e = .insufficientEntropy ∧ asked.outcome = .ok () ∧ ∀ byte ∈ asked.buffer, byte = 0 := by
  rcases asked.cases_checked with ⟨e', h⟩ | ⟨h, hdata | hzeros⟩
  · simp [checked_of_error h, h]
  · simpa [checked_of_data h hdata, h] using fun _ => hdata
  · simpa [checked_of_zeros h hzeros, h, eq_comm] using fun _ => hzeros

end Fill

theorem fillChecked_nil (source : Source σ) (state : σ) :
    fillChecked source state [] = ⟨.ok (), [], state, []⟩ := rfl

theorem fillChecked_of_ne_nil (source : Source σ) (state : σ) {buffer : List UInt8}
    (h : buffer ≠ []) : fillChecked source state buffer = (source.fill state buffer).checked := by
  rw [fillChecked, if_neg (by simpa using h)]
  rfl

abbrev SourceCall (σ : Type) := σ × List UInt8

/-- The source with a list of the calls that it has got. -/
def Source.recorded (source : Source σ) : Source (σ × List (SourceCall σ)) where
  fill state buffer :=
    let asked := source.fill state.1 buffer
    ⟨asked.outcome, asked.buffer, (asked.state, state.2 ++ [(state.1, buffer)]), asked.records⟩

def Fill.withCalls (filled : Fill σ) (calls : List (SourceCall σ)) : Fill (σ × List (SourceCall σ)) :=
  ⟨filled.outcome, filled.buffer, (filled.state, calls), filled.records⟩

def Fill.withoutCalls (filled : Fill (σ × List (SourceCall σ))) : Fill σ :=
  ⟨filled.outcome, filled.buffer, filled.state.1, filled.records⟩

theorem Fill.withoutCalls_withCalls (filled : Fill σ) (calls : List (SourceCall σ)) :
    (filled.withCalls calls).withoutCalls = filled := rfl

theorem Fill.checked_withCalls (asked : Fill σ) (calls : List (SourceCall σ)) :
    (asked.withCalls calls).checked = asked.checked.withCalls calls := by
  have houtcome : (asked.withCalls calls).outcome = asked.outcome := rfl
  rcases asked.cases_checked with ⟨e, h⟩ | ⟨h, hdata | hzeros⟩
  · rw [checked_of_error h, checked_of_error (houtcome.trans h)]
  · rw [checked_of_data h hdata, checked_of_data (houtcome.trans h) hdata]
  · rw [checked_of_zeros h hzeros, checked_of_zeros (houtcome.trans h) hzeros]
    rfl

theorem fillChecked_recorded (source : Source σ) (state : σ) (calls : List (SourceCall σ))
    (buffer : List UInt8) : fillChecked source.recorded (state, calls) buffer =
      (fillChecked source state buffer).withCalls
        (if buffer = [] then calls else calls ++ [(state, buffer)]) := by
  by_cases h : buffer = []
  · rw [h, fillChecked_nil, fillChecked_nil, if_pos rfl]
    rfl
  · rw [fillChecked_of_ne_nil _ _ h, fillChecked_of_ne_nil _ _ h, if_neg h,
      ← Fill.checked_withCalls]
    rfl

def stateAfter (source : Source σ) (state : σ) (buffers : List (List UInt8)) : σ :=
  buffers.foldl (fun state buffer => (fillChecked source state buffer).state) state

theorem getElem?_fillEach (source : Source σ) (state : σ) (buffers : List (List UInt8)) (i : Nat) :
    (fillEach source state buffers)[i]? =
      buffers[i]?.map (fillChecked source (stateAfter source state (buffers.take i))) := by
  induction buffers generalizing state i with
  | nil => rfl
  | cons buffer rest ih =>
    cases i with
    | zero => rfl
    | succ i =>
      rw [fillEach, List.getElem?_cons_succ, ih, List.getElem?_cons_succ, List.take_succ_cons]
      rfl

theorem fillEach_recorded (source : Source σ) (state : σ) (calls : List (SourceCall σ))
    (buffers : List (List UInt8)) :
    (fillEach source.recorded (state, calls) buffers).map Fill.withoutCalls =
      fillEach source state buffers := by
  induction buffers generalizing state calls with
  | nil => rfl
  | cons buffer rest ih =>
    rw [fillEach, List.map_cons, fillEach, fillChecked_recorded, Fill.withoutCalls_withCalls]
    exact congrArg _ (ih _ _)

theorem stateAfter_recorded (source : Source σ) (state : σ) (calls : List (SourceCall σ))
    (buffers : List (List UInt8)) :
    (stateAfter source.recorded (state, calls) buffers).2.map Prod.snd =
      calls.map Prod.snd ++ buffers.filter (· ≠ []) := by
  induction buffers generalizing state calls with
  | nil => simp [stateAfter]
  | cons buffer rest ih =>
    have hnext : stateAfter source.recorded (state, calls) (buffer :: rest) =
        stateAfter source.recorded ((fillChecked source state buffer).state,
          if buffer = [] then calls else calls ++ [(state, buffer)]) rest := by
      rw [stateAfter, List.foldl_cons, fillChecked_recorded]
      rfl
    rw [hnext, ih]
    by_cases h : buffer = [] <;> simp [h]

/-- What a checked fill does, whatever the source, its state and the buffer are. A source that fails
is taken at its word, and of one that does not, zeros alone are insufficient. It is asked once,
unless the buffer is empty. -/
structure ChecksFill (source : Source σ) (state : σ) (buffer : List UInt8) : Prop where
  ok_iff : (fillChecked source state buffer).outcome = .ok () ↔ buffer = [] ∨
    (source.fill state buffer).outcome = .ok () ∧
      ∃ byte ∈ (source.fill state buffer).buffer, byte ≠ 0
  error_iff : ∀ e, (fillChecked source state buffer).outcome = .error e ↔ buffer ≠ [] ∧
    ((source.fill state buffer).outcome = .error e ∨
      e = .insufficientEntropy ∧ (source.fill state buffer).outcome = .ok () ∧
        ∀ byte ∈ (source.fill state buffer).buffer, byte = 0)
  failed : ∀ e, buffer ≠ [] → (source.fill state buffer).outcome = .error e →
    fillChecked source state buffer = source.fill state buffer
  insufficient_iff : buffer ≠ [] → (source.fill state buffer).outcome = .ok () →
    ((fillChecked source state buffer).outcome = .error .insufficientEntropy ↔
      ∀ byte ∈ (source.fill state buffer).buffer, byte = 0)
  left : buffer ≠ [] →
    (fillChecked source state buffer).buffer = (source.fill state buffer).buffer ∧
      (fillChecked source state buffer).state = (source.fill state buffer).state
  calls : ∀ calls, (fillChecked source.recorded (state, calls) buffer).state =
    ((fillChecked source state buffer).state,
      if buffer = [] then calls else calls ++ [(state, buffer)])

structure ChecksFills (source : Source σ) (state : σ) (buffers : List (List UInt8)) : Prop where
  each : ∀ i, (fillEach source state buffers)[i]? =
    buffers[i]?.map (fillChecked source (stateAfter source state (buffers.take i)))
  same : (fillEach source.recorded (state, []) buffers).map Fill.withoutCalls =
    fillEach source state buffers
  calls : (stateAfter source.recorded (state, []) buffers).2.map Prod.snd =
    buffers.filter (· ≠ [])

theorem checksFill (source : Source σ) (state : σ) (buffer : List UInt8) :
    ChecksFill source state buffer where
  ok_iff := by
    by_cases h : buffer = []
    · rw [h, fillChecked_nil]
      exact iff_of_true rfl (.inl rfl)
    · rw [fillChecked_of_ne_nil _ _ h, Fill.checked_ok_iff, or_iff_right h]
  error_iff e := by
    by_cases h : buffer = []
    · rw [h, fillChecked_nil]
      exact iff_of_false nofun fun hne => hne.1 rfl
    · rw [fillChecked_of_ne_nil _ _ h, Fill.checked_error_iff, and_iff_right h]
  failed e h he := by rw [fillChecked_of_ne_nil _ _ h, Fill.checked_of_error he]
  insufficient_iff h hok := by
    rw [fillChecked_of_ne_nil _ _ h, Fill.checked_error_iff]
    simp [hok]
  left h := by
    rw [fillChecked_of_ne_nil _ _ h]
    exact ⟨Fill.buffer_checked _, Fill.state_checked _⟩
  calls calls := by
    rw [fillChecked_recorded]
    rfl

theorem checked_fills_are_live (source : Source σ) (state : σ) :
    (∀ buffer, ChecksFill source state buffer) ∧ ∀ buffers, ChecksFills source state buffers where
  left := checksFill source state
  right buffers :=
    ⟨getElem?_fillEach source state buffers, fillEach_recorded source state [] buffers,
      stateAfter_recorded source state [] buffers⟩

end HostBridge.Entropy
