import HostBridge.Text.Reader
import Mathlib.Data.List.TakeWhile

/-!
# What readers take

A reader takes characters from the front of a text. When it can take none but some, a text that it
reads to the end has no others.
-/
namespace HostBridge.Reader

variable {α β : Type} {allowed : Char → Prop}

def Takes (allowed : Char → Prop) (p : Reader α) : Prop :=
  ∀ cursor a after, p cursor = some (a, after) →
    ∃ taken, cursor.rest = taken ++ after.rest ∧ ∀ c ∈ taken, allowed c

theorem takes_pure (a : α) : Takes allowed (pure a : Reader α) := by
  rintro cursor b after h
  cases h
  exact ⟨[], rfl, by simp⟩

theorem takes_failure : Takes allowed (failure : Reader α) := by
  rintro cursor b after h
  cases h

theorem Takes.bind {p : Reader α} {f : α → Reader β} (hp : Takes allowed p)
    (hf : ∀ a, Takes allowed (f a)) : Takes allowed (p >>= f) := by
  rintro cursor b after h
  obtain ⟨⟨a, m⟩, hfirst, hsecond⟩ := Option.bind_eq_some_iff.mp h
  obtain ⟨first, hsplit, hallowed⟩ := hp cursor a m hfirst
  obtain ⟨second, hsplit', hallowed'⟩ := hf a m b after hsecond
  refine ⟨first ++ second, by rw [hsplit, hsplit', List.append_assoc], fun c hc => ?_⟩
  exact (List.mem_append.mp hc).elim (hallowed c) (hallowed' c)

theorem Takes.map {p : Reader α} (hp : Takes allowed p) (f : α → β) : Takes allowed (f <$> p) := by
  rintro cursor b after h
  obtain ⟨⟨a, m⟩, hread, hmap⟩ := Option.bind_eq_some_iff.mp h
  cases hmap
  exact hp cursor a _ hread

theorem Takes.orElse {p q : Reader α} (hp : Takes allowed p) (hq : Takes allowed q) :
    Takes allowed (p <|> q) := by
  rintro cursor b after h
  have hor : p cursor = some (b, after) ∨ q cursor = some (b, after) := by
    change (p cursor <|> q cursor) = _ at h
    cases hfirst : p cursor with
    | none =>
      rw [hfirst] at h
      exact .inr h
    | some x =>
      rw [hfirst] at h
      exact .inl h
  exact hor.elim (hp cursor b after) (hq cursor b after)

theorem takes_satisfy {test : Char → Bool} (h : ∀ c, test c = true → allowed c) :
    Takes allowed (satisfy test) := by
  rintro cursor b after hread
  unfold satisfy at hread
  split at hread
  · next c rest hrest =>
    split at hread
    · next htest =>
      cases hread
      exact ⟨[b], hrest, by simpa using h b htest⟩
    · cases hread
  · cases hread

theorem takes_takeWhile {test : Char → Bool} (h : ∀ c, test c = true → allowed c) :
    Takes allowed (takeWhile test) := by
  rintro cursor b after hread
  cases hread
  exact ⟨cursor.rest.takeWhile test, (List.prefix_iff_eq_append.mp (List.takeWhile_prefix _)).symm,
    fun c hc => h c (List.mem_takeWhile_imp hc)⟩

theorem Takes.optionally {p : Reader α} (hp : Takes allowed p) :
    Takes allowed (optionally p) :=
  (hp.map some).orElse (takes_pure none)

theorem takes_takeSome {test : Char → Bool} (h : ∀ c, test c = true → allowed c) :
    Takes allowed (takeSome test) := by
  refine (takes_takeWhile h).bind fun taken => ?_
  split
  · exact takes_failure
  · exact takes_pure taken

theorem rest_eq_nil_of_endOfInput {cursor after : Cursor}
    (h : endOfInput cursor = some ((), after)) : cursor.rest = [] := by
  obtain ⟨offset, rest⟩ := cursor
  cases rest with
  | nil => rfl
  | cons c rest => cases h

theorem Takes.of_runChars? {p : Reader α} (hp : Takes allowed p) {text : List Char} {a : α}
    (h : p.runChars? text = some a) : ∀ c ∈ text, allowed c := by
  obtain ⟨⟨b, after⟩, hrun, -⟩ := Option.map_eq_some_iff.mp h
  obtain ⟨⟨b, m⟩, hread, hend⟩ := Option.bind_eq_some_iff.mp hrun
  obtain ⟨⟨_, last⟩, hend, -⟩ := Option.bind_eq_some_iff.mp hend
  obtain ⟨taken, hsplit, htaken⟩ := hp _ b m hread
  have hrest : text = taken := by simpa [rest_eq_nil_of_endOfInput hend] using hsplit
  exact hrest ▸ htaken

end HostBridge.Reader
