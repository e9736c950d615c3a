/-!
Runs of a machine that is given one input after the other and answers each. The
history of a run lists the inputs with their answers. What holds before the first
input, and is kept from a history and the state it has led to by one more step,
holds after every run.
-/

namespace MarkdownHighlight

structure Exchange (Input Output : Type) where
  input : Input
  output : Output
  deriving DecidableEq, Repr

namespace Run

variable {State Input Output : Type} (step : State → Input → Output × State)

def reached (s : State) (inputs : List Input) : State :=
  inputs.foldl (fun s input => (step s input).2) s

def history (s : State) : List Input → List (Exchange Input Output)
  | [] => []
  | input :: later => ⟨input, (step s input).1⟩ :: history (step s input).2 later

theorem take_history (s : State) (inputs : List Input) (count : Nat) :
    (history step s inputs).take count = history step s (inputs.take count) := by
  induction inputs generalizing s count with
  | nil => simp [history]
  | cons input later ih =>
      cases count with
      | zero => rfl
      | succ count => rw [history, List.take_succ_cons, ih, List.take_succ_cons, history]

theorem getElem?_history (s : State) (inputs : List Input) (place : Nat) :
    (history step s inputs)[place]? = inputs[place]?.map fun input =>
      ⟨input, (step (reached step s (inputs.take place)) input).1⟩ := by
  induction inputs generalizing s place with
  | nil => rfl
  | cons input later ih =>
      cases place with
      | zero => rfl
      | succ place =>
          rw [history, List.getElem?_cons_succ, ih, List.getElem?_cons_succ, List.take_succ_cons]
          rfl

/-- A law that one step keeps is kept by a run. -/
theorem keeps (law : List (Exchange Input Output) → State → Prop)
    (kept : ∀ before s input, law before s →
      law (before ++ [⟨input, (step s input).1⟩]) (step s input).2)
    {s : State} (start : law [] s) (inputs : List Input) :
    law (history step s inputs) (reached step s inputs) := by
  suffices onward : ∀ before s, law before s →
      law (before ++ history step s inputs) (reached step s inputs) from onward [] s start
  clear start
  induction inputs with
  | nil => simp [history, reached]
  | cons input later ih =>
      intro before s holds
      have after := ih _ _ (kept before s input holds)
      rwa [List.append_assoc, List.singleton_append] at after

/-- Two machines answer alike from related states on, when every step of theirs does
and leads to related states again. -/
theorem simulates {Other : Type} (step : State → Input → Output × State)
    (step' : Other → Input → Output × Other) (related : State → Other → Prop)
    (kept : ∀ s s' input, related s s' → (step s input).1 = (step' s' input).1 ∧
      related (step s input).2 (step' s' input).2)
    {s : State} {s' : Other} (start : related s s') (inputs : List Input) :
    history step s inputs = history step' s' inputs ∧
      related (reached step s inputs) (reached step' s' inputs) := by
  induction inputs generalizing s s' with
  | nil => exact ⟨rfl, start⟩
  | cons input later ih =>
      obtain ⟨alike, onward⟩ := kept s s' input start
      obtain ⟨answers, last⟩ := ih onward
      rw [history, history, alike, answers]
      exact ⟨rfl, last⟩

end Run

end MarkdownHighlight
