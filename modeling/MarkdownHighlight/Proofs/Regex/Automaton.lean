import MarkdownHighlight.Proofs.Text.Walk
import MarkdownHighlight.Regex.Automaton

/-!
Where a search with all branches side by side finds its matches. A runner never
forgets the place where it started, and it only goes on with the text. So whatever
the steps are, a match starts at or behind the place where the search began, and it
does not stop before it starts.
-/

namespace MarkdownHighlight

structure Cursor.InOrder (first middle last : Cursor) : Prop where
  ahead : ∃ v, first.Walks v middle
  onward : ∃ w, middle.Walks w last

theorem Cursor.InOrder.extend {first middle last next : Cursor} {w : Text}
    (order : first.InOrder middle last) (walk : last.Walks w next) :
    first.InOrder middle next where
  ahead := order.ahead
  onward := by
    obtain ⟨v, before⟩ := order.onward
    exact ⟨v ++ w, before.trans walk⟩

namespace Runner

theorem start_of_mem_replace {r q : Runner} {c : Cursor} {s : Step} (member : q ∈ r.replace c s) :
    q.start = r.start := by
  cases s with
  | read set => cases member
  | accept => cases member
  | check condition =>
      rw [replace] at member
      split at member
      · rw [List.mem_singleton.mp member]
        rfl
      · cases member
  | fork preferred other =>
      rcases List.mem_cons.mp member with rfl | second
      · rfl
      · rw [List.mem_singleton.mp second]
        rfl
  | opening =>
      rw [List.mem_singleton.mp member]
      rfl
  | closing index =>
      rw [List.mem_singleton.mp member, leave]
      split <;> rfl

end Runner

namespace Automaton

variable {a : Automaton} {c : Cursor}

/-- The runners that are followed to the steps at which they stay started where others did. -/
theorem settle_starts (Known : Cursor → Prop) (seen : Std.HashSet Nat)
    (work : List Runner) (settled : List (Runner × Step)) (waiting : ∀ r ∈ work, Known r.start)
    (done : ∀ e ∈ settled, Known e.1.start) :
    ∀ e ∈ a.settle c seen work settled, Known e.1.start := by
  fun_induction settle a c seen work settled with
  | case1 => simpa using done
  | case2 seen r work settled fresh inside step settled' ih =>
      obtain ⟨here, later⟩ := List.forall_mem_cons.mp waiting
      apply ih
      · intro q member
        rcases List.mem_append.mp member with new | old
        · rwa [Runner.start_of_mem_replace new]
        · exact later q old
      · intro e member
        have recorded : e = (r, step) ∨ e ∈ settled := by
          clear_value step
          cases step with
          | read set => exact List.mem_cons.mp member
          | accept => exact List.mem_cons.mp member
          | check condition => exact Or.inr member
          | fork preferred other => exact Or.inr member
          | opening => exact Or.inr member
          | closing index => exact Or.inr member
        rcases recorded with rfl | old
        · exact here
        · exact done e old
  | case3 _ _ _ _ _ _ ih => exact ih (List.forall_mem_cons.mp waiting).2 done
  | case4 _ _ _ _ _ ih => exact ih (List.forall_mem_cons.mp waiting).2 done

/-- Those that read on keep their starts, and a match ends where one of them accepts. -/
theorem advance_starts (Known : Cursor → Prop) (settled : List (Runner × Step))
    (each : ∀ e ∈ settled, Known e.1.start) :
    (∀ r ∈ (advance c settled).1, Known r.start) ∧
      ∀ m, (advance c settled).2 = some m → Known m.start ∧ m.stop = c := by
  induction settled with
  | nil => exact ⟨nofun, nofun⟩
  | cons e later ih =>
      obtain ⟨r, step⟩ := e
      obtain ⟨here, after⟩ := List.forall_mem_cons.mp each
      obtain ⟨reading, accepted⟩ := ih after
      cases step with
      | accept =>
          refine ⟨nofun, ?_⟩
          rintro m ⟨⟩
          exact ⟨here, rfl⟩
      | read set =>
          refine ⟨fun q member => ?_, accepted⟩
          simp only [advance] at member
          split at member
          · rcases List.mem_cons.mp member with rfl | old
            · exact here
            · exact reading q old
          · exact reading q member
      | check condition => exact ⟨reading, accepted⟩
      | fork preferred other => exact ⟨reading, accepted⟩
      | opening => exact ⟨reading, accepted⟩
      | closing index => exact ⟨reading, accepted⟩

variable {origin : Cursor} {runners work : List Runner} {found? : Option Match}

theorem waiting_inOrder (begun : ∃ w, origin.Walks w c)
    (each : ∀ r ∈ runners, origin.InOrder r.start c) :
    ∀ r ∈ (if found?.isSome then runners else runners ++ [⟨0, c, [], []⟩] : List Runner),
      origin.InOrder r.start c := by
  intro r member
  split at member
  · exact each r member
  · rcases List.mem_append.mp member with old | new
    · exact each r old
    · rw [List.mem_singleton.mp new]
      exact ⟨begun, [], .refl c⟩

/-- What a search does at one place: it goes on with runners that came there, and the match it
knows is the one it knew or one that ends there. -/
theorem visit_inOrder {onward : List Runner} {better? : Option Match}
    (went : advance c (a.settle c ∅ work []) = (onward, better?))
    (each : ∀ r ∈ work, origin.InOrder r.start c)
    (known : ∀ m, found? = some m → origin.InOrder m.start m.stop) :
    (∀ r ∈ onward, origin.InOrder r.start c) ∧
      ∀ m, (better?.orElse fun _ => found?) = some m → origin.InOrder m.start m.stop := by
  have settled : ∀ e ∈ a.settle c ∅ work [], origin.InOrder e.1.start c :=
    settle_starts (origin.InOrder · c) ∅ work [] each nofun
  obtain ⟨reading, accepted⟩ := advance_starts (origin.InOrder · c) _ settled
  rw [went] at reading accepted
  refine ⟨reading, fun m found => ?_⟩
  cases better? with
  | none => exact known m found
  | some better =>
      obtain ⟨order, here⟩ := accepted better rfl
      rw [← Option.some.inj found]
      rwa [here]

theorem searchWithin_inOrder (text : Text) (runners : List Runner) (found? : Option Match)
    (begun : ∃ w, origin.Walks w c) (each : ∀ r ∈ runners, origin.InOrder r.start c)
    (known : ∀ m, found? = some m → origin.InOrder m.start m.stop) :
    ∀ m, a.searchWithin text c runners found? = some m → origin.InOrder m.start m.stop := by
  fun_induction searchWithin a text c runners found? with
  | case1 => exact known
  | case2 c runners found? work _ onward better? went best? ch later next step ih =>
      obtain ⟨came, best⟩ := visit_inOrder went (waiting_inOrder begun each) known
      obtain ⟨ch, walk⟩ := (Cursor.forward?_eq_some_iff c next).mp step
      obtain ⟨w, before⟩ := begun
      exact ih ⟨w ++ [ch], before.trans walk⟩ (fun r member => (came r member).extend walk) best
  | case3 _ c runners found? work _ onward better? went best? _ =>
      exact (visit_inOrder went (waiting_inOrder begun each) known).2

theorem search?_inOrder {m : Match} (found : a.search? c = some m) : c.InOrder m.start m.stop :=
  searchWithin_inOrder c.rest [] none ⟨[], .refl c⟩ nofun nofun m found

end Automaton

end MarkdownHighlight
