import Mathlib.Data.List.Basic

/-!
# What has held since an event

A history is a list of events, the oldest first. `Since arms keeps` says of a history that it has an
event which `arms` allows after the events before it, and that `keeps` allows every later event.
Whether that is so after one more event is read off the event and the history before it
(`since_append_singleton`).
-/

namespace ExerciseSheet

variable {ε : Type}

/-- Some event was allowed by `arms`, and each event since was allowed by `keeps`, both asked with
the events before it. -/
def Since (arms keeps : List ε → ε → Prop) (history : List ε) : Prop :=
  ∃ before e after, history = before ++ e :: after ∧ arms before e
    ∧ ∀ mid f rest, after = mid ++ f :: rest → keeps (before ++ e :: mid) f

variable {arms keeps : List ε → ε → Prop} {history before after : List ε} {e f : ε}

theorem cut_append_singleton (h : history ++ [f] = before ++ e :: after) :
    (history = before ∧ f = e ∧ after = [])
      ∨ ∃ rest, after = rest ++ [f] ∧ history = before ++ e :: rest := by
  rcases after.eq_nil_or_concat' with rfl | ⟨rest, g, rfl⟩
  · obtain ⟨hbefore, hlast⟩ := List.append_inj' h rfl
    exact .inl ⟨hbefore, List.singleton_inj.1 hlast, rfl⟩
  · rw [← List.cons_append, ← List.append_assoc] at h
    obtain ⟨hbefore, hlast⟩ := List.append_inj' h rfl
    exact .inr ⟨rest, by rw [List.singleton_inj.1 hlast], hbefore⟩

theorem not_since_nil : ¬ Since arms keeps [] := by
  rintro ⟨before, e, after, h, -⟩
  cases before <;> cases h

theorem since_append_singleton :
    Since arms keeps (history ++ [f]) ↔
      arms history f ∨ (Since arms keeps history ∧ keeps history f) := by
  constructor
  · rintro ⟨before, e, after, h, harms, hkeeps⟩
    obtain ⟨rfl, rfl, -⟩ | ⟨rest, rfl, rfl⟩ := cut_append_singleton h
    · exact .inl harms
    · refine .inr ⟨⟨before, e, rest, rfl, harms, fun mid g tail hmid => ?_⟩, ?_⟩
      · exact hkeeps mid g (tail ++ [f]) (by rw [hmid, List.append_assoc, List.cons_append])
      · exact hkeeps rest f [] rfl
  · rintro (harms | ⟨⟨before, e, after, rfl, harms, hkeeps⟩, hf⟩)
    · exact ⟨history, f, [], rfl, harms, fun mid g rest h => by cases mid <;> cases h⟩
    · refine ⟨before, e, after ++ [f], by rw [List.append_assoc, List.cons_append], harms, ?_⟩
      intro mid g rest hmid
      obtain ⟨rfl, rfl, -⟩ | ⟨tail, -, htail⟩ := cut_append_singleton hmid
      · exact hf
      · exact hkeeps mid g tail htail

end ExerciseSheet
