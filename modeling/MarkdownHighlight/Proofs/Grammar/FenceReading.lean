import MarkdownHighlight.Proofs.Grammar.Fences
import MarkdownHighlight.Proofs.Grammar.LineReading

/-!
What the expression of a code block matches, told by the lines of the text. It needs an
opening fence where a line begins and some closing fence further down. Of the closing
fences it prefers the first that leaves a line in between: the part that holds such lines
is optional and tried before it is left out.
-/

namespace MarkdownHighlight

open Text (newline lines joinLines)

namespace Cursor

variable {c d e f : Cursor} {v w : Text} {first behind : List Text}

theorem lines_of_walk (walk : c.Walks (w ++ [newline]) e) :
    lines c.rest = lines w ++ lines e.rest := by
  rw [walk.rest_eq, List.append_assoc, List.singleton_append, Text.lines_append]

theorem lines_of_lineEnd (walk : c.Walks w d) (clean : newline ∉ w)
    (atEnd : Assertion.lineEnd.holds d = true) : ∃ later, lines c.rest = w :: later := by
  rw [walk.rest_eq]
  cases rest : d.rest with
  | nil => exact ⟨[], by rw [List.append_nil, Text.lines_of_line w clean]⟩
  | cons ch later =>
      obtain rfl : ch = newline := by
        rw [Assertion.holds, next?, rest] at atEnd
        exact beq_iff_eq.mp atEnd
      exact ⟨lines later, by rw [Text.lines_append, Text.lines_of_line w clean]; rfl⟩

/-- Over the first lines that are left a walk leads to the end of one of them, and over
the newline there to the lines that follow. -/
theorem exists_lines (first : List Text) (some : first ≠ [])
    (split : lines c.rest = first ++ behind) :
    ∃ d, c.Walks (joinLines first) d ∧ Assertion.lineEnd.holds d = true ∧
      (behind = [] ∧ d.rest = [] ∨ ∃ e, d.Walks [newline] e ∧ lines e.rest = behind) := by
  have whole := congrArg joinLines split
  rw [Text.joinLines_lines] at whole
  by_cases ended : behind = []
  · rw [ended, List.append_nil] at whole
    obtain ⟨d, walk, rest⟩ := c.exists_walk (joinLines first) [] (by rw [whole, List.append_nil])
    exact ⟨d, walk, by rw [Assertion.holds, next?, rest]; rfl, Or.inl ⟨ended, rest⟩⟩
  · have clean := Text.newline_not_mem_of_mem_lines c.rest
    rw [split] at clean
    rw [Text.joinLines_append first behind some ended] at whole
    obtain ⟨d, walk, rest⟩ := c.exists_walk (joinLines first) _ whole
    obtain ⟨e, step, rest'⟩ := d.exists_walk [newline] (joinLines behind) rest
    refine ⟨d, walk, by rw [Assertion.holds, step.next?]; rfl, Or.inr ⟨e, step, ?_⟩⟩
    rw [rest']
    exact Text.lines_joinLines behind ended fun line inside =>
      clean line (List.mem_append_right _ inside)

/-- What begins behind a newline inside joined lines is one of them, and not the first. -/
theorem mem_tail_of_newline {line : Text} {later : List Text}
    (split : lines c.rest = first ++ behind) (walk : c.Walks (joinLines first) f)
    (ended : f.Walks [newline] e) (there : c.Walks v d) (onward : d.Walks w f) (inside : w ≠ [])
    {g : Cursor} (step : d.Walks [newline] g) (next : lines g.rest = line :: later) :
    line ∈ first.tail := by
  obtain ⟨ch, u, rfl⟩ := List.exists_cons_of_ne_nil inside
  obtain ⟨g', step', rest⟩ := Walks.of_append (v := [ch]) (w := u) onward
  obtain rfl : newline = ch := Option.some.inj (step.next?.symm.trans step'.next?)
  obtain rfl := step.target_unique step'
  have some : first ≠ [] := by
    rintro rfl
    have none := walk.word_unique (there.trans onward)
    simp [joinLines, List.intercalate] at none
  have clean : ∀ other ∈ first, newline ∉ other := by
    intro other member
    exact Text.newline_not_mem_of_mem_lines c.rest other (split ▸ List.mem_append_left _ member)
  have whole : first = lines v ++ lines u := by
    rw [← Text.lines_joinLines first some clean, walk.word_unique (there.trans onward),
      Text.lines_append]
  obtain ⟨before, others, cut⟩ := List.exists_cons_of_ne_nil (Text.lines_ne_nil v)
  obtain ⟨here, others', cut'⟩ := List.exists_cons_of_ne_nil (Text.lines_ne_nil u)
  rw [lines_of_walk (rest.trans ended), cut', List.cons_append, List.cons.injEq] at next
  simp [whole, cut, cut', next.1]

end Cursor

namespace Grammar

open Regex

section Closing

variable {c d : Cursor} {p q : Progress} {line closing : Text} {inner behind later : List Text}

def fenceEnd : Regex :=
  concat [.group 5 (literal "```"), .star true (.one lineFiller), .assert .lineEnd]

def fenceBody : Regex := .seq (.group 4 (.star false (.one .any))) (char '\n')

theorem closesFence_iff (line : Text) :
    closesFence line = true ↔ ∃ filler, line = fence ++ filler ∧ AllIn lineFiller filler := by
  have blanks : ∀ filler : Text,
      filler.all ([' ', '\t', '\r'].contains ·) = true ↔ AllIn lineFiller filler := by
    intro filler
    simp [AllIn, lineFiller]
  rw [closesFence, Bool.and_eq_true, List.isPrefixOf_iff_prefix]
  constructor
  · rintro ⟨⟨filler, rfl⟩, all⟩
    rw [List.drop_left, blanks] at all
    exact ⟨filler, rfl, all⟩
  · rintro ⟨filler, rfl, all⟩
    refine ⟨List.prefix_append .., ?_⟩
    rwa [List.drop_left, blanks]

theorem newline_not_mem_fence {filler : Text} (filling : AllIn lineFiller filler) :
    newline ∉ fence ++ filler := by
  rw [List.mem_append, not_or]
  exact ⟨by decide, not_mem_of_allIn filling (by decide)⟩

theorem closesFence_of_walks {c₁ : Cursor} {filler : Text} (fenced : c.Walks fence c₁)
    (filling : AllIn lineFiller filler) (tail : c₁.Walks filler d)
    (atEnd : Assertion.lineEnd.holds d = true) :
    ∃ line later, lines c.rest = line :: later ∧ closesFence line = true := by
  obtain ⟨later, split⟩ := Cursor.lines_of_lineEnd (fenced.trans tail)
    (newline_not_mem_fence filling) atEnd
  exact ⟨_, later, split, (closesFence_iff _).mpr ⟨filler, rfl, filling⟩⟩

theorem closesFence_of_fenceEnd (member : q ∈ outcomes fenceEnd p) :
    ∃ line later, lines p.cursor.rest = line :: later ∧ closesFence line = true := by
  simp only [fenceEnd, concat, mem_outcomes_seq, mem_outcomes_group, mem_outcomes_literal,
    mem_outcomes_star_one, mem_outcomes_assert] at member
  obtain ⟨_, ⟨_, ⟨c₁, fenced, rfl⟩, rfl⟩, _, ⟨filler, d, tail, filling, rfl⟩, atEnd, rfl⟩ := member
  exact closesFence_of_walks fenced filling tail atEnd

theorem fenceEnd_prefers (closes : closesFence line = true)
    (split : lines p.cursor.rest = line :: later) :
    ∃ d groups, Prefers fenceEnd p ⟨d, groups⟩ ∧ p.cursor.Walks line d := by
  obtain ⟨filler, rfl, filling⟩ := (closesFence_iff line).mp closes
  obtain ⟨d, walk, atEnd, _⟩ := Cursor.exists_lines [fence ++ filler] (by simp) split
  rw [Text.joinLines_singleton] at walk
  obtain ⟨c₁, fenced, tail⟩ := walk.of_append
  have opened : Prefers (.group 5 (literal "```")) p _ := (prefers_literal "```" fenced).group 5
  refine ⟨d, _, opened.seq ((prefers_star_one tail filling ?_).seq (prefers_assert atEnd)), walk⟩
  exact Cursor.refuses_of_lineEnd atEnd (by decide)

theorem closesFence_of_newline (member : q ∈ outcomes (.seq (char '\n') fenceEnd) p) :
    ∃ e line later, p.cursor.Walks [newline] e ∧ lines e.rest = line :: later ∧
      closesFence line = true := by
  rw [mem_outcomes_seq] at member
  obtain ⟨m, stepped, ended⟩ := member
  obtain ⟨e, step, rfl⟩ := (mem_outcomes_char '\n' p m).mp stepped
  obtain ⟨line, later, split, closes⟩ := closesFence_of_fenceEnd ended
  exact ⟨e, line, later, step, split, closes⟩

/-- Where no closing fence leaves a line in between there is no body. -/
theorem fenceBody_refused (split : lines p.cursor.rest = closing :: behind)
    (clean : ∀ line ∈ behind, closesFence line = false) :
    outcomes (.seq fenceBody fenceEnd) p = [] := by
  rw [List.eq_nil_iff_forall_not_mem]
  intro q member
  rw [fenceBody, outcomes_seq_assoc, mem_outcomes_seq] at member
  obtain ⟨m, bodied, ended⟩ := member
  simp only [mem_outcomes_group, mem_outcomes_star_one] at bodied
  obtain ⟨_, ⟨body, e, walk, _, rfl⟩, rfl⟩ := bodied
  obtain ⟨f, line, later, step, there, closes⟩ := closesFence_of_newline ended
  obtain ⟨first, others, body_eq⟩ := List.exists_cons_of_ne_nil (Text.lines_ne_nil body)
  have around := Cursor.lines_of_walk (walk.trans step)
  rw [split, body_eq, there, List.cons_append, List.cons.injEq] at around
  have open' := clean line (by simp [around.2])
  rw [closes] at open'
  cases open'

/-- The body takes all the lines inside: to end earlier it would need a closing fence among
them, behind the first. -/
theorem fenceBody_prefers (some : inner ≠ []) (closed : RemotelyClosed inner closing behind)
    (split : lines p.cursor.rest = inner ++ closing :: behind) :
    ∃ d groups, Prefers (.seq fenceBody fenceEnd) p ⟨d, groups⟩ ∧
      p.cursor.Walks (joinLines (inner ++ [closing])) d := by
  obtain ⟨e, walk, _, ⟨none, _⟩ | ⟨f, step, after⟩⟩ := Cursor.exists_lines inner some split
  · cases none
  obtain ⟨d, groups, ended, last⟩ := fenceEnd_prefers (p := ⟨f, (4, p.cursor, e) :: p.groups⟩)
    closed.closes after
  refine ⟨d, groups, ?_, ?_⟩
  · rw [Prefers, fenceBody, outcomes_seq_assoc]
    apply prefers_lazy_seq 4 walk (fun _ _ => rfl) ((prefers_char step).seq ended)
    intro v g u there onward more
    rw [List.eq_nil_iff_forall_not_mem]
    intro q member
    obtain ⟨h, line, later, step', split', closes⟩ := closesFence_of_newline member
    have inside := Cursor.mem_tail_of_newline split walk step there onward more step' split'
    rw [closed.inside line inside] at closes
    cases closes
  · rw [Text.joinLines_append inner [closing] some (by simp), Text.joinLines_singleton]
    exact walk.trans (step.trans last)

theorem fenceTail_prefers (closed : RemotelyClosed inner closing behind)
    (split : lines p.cursor.rest = inner ++ closing :: behind) :
    ∃ d groups, Prefers (.seq (optional true fenceBody) fenceEnd) p ⟨d, groups⟩ ∧
      p.cursor.Walks (joinLines (inner ++ [closing])) d := by
  by_cases empty : inner = []
  · subst empty
    obtain ⟨d, groups, ended, walk⟩ := fenceEnd_prefers closed.closes split
    refine ⟨d, groups, ended.optional_seq_of_nil (fenceBody_refused split (closed.last rfl)), ?_⟩
    rwa [List.nil_append, Text.joinLines_singleton]
  · obtain ⟨d, groups, bodied, walk⟩ := fenceBody_prefers empty closed split
    exact ⟨d, groups, bodied.optional_seq, walk⟩

end Closing

section Block

variable {c : Cursor} {opening closing : Text} {inner behind : List Text}

theorem opensFence_split (opens : opensFence opening = true) (clean : newline ∉ opening) :
    ∃ language info, opening = fence ++ (language ++ info) ∧ AllIn languageSet language ∧
      AllIn notNewline info ∧ ∀ ch, info.head? = some ch → languageSet.test ch = false := by
  rw [opensFence, List.isPrefixOf_iff_prefix] at opens
  obtain ⟨rest, rfl⟩ := opens
  refine ⟨rest.takeWhile languageSet.test, rest.dropWhile languageSet.test,
    by rw [List.takeWhile_append_dropWhile], ?_, ?_, ?_⟩
  · exact fun ch inside => List.mem_takeWhile_imp inside
  · intro ch inside
    have present := (List.dropWhile_suffix _).subset inside
    have other : ch ≠ '\n' := by
      rintro rfl
      exact clean (List.mem_append_right fence present)
    simpa [notNewline, CharSet.test] using other
  · intro ch first
    have stopped := List.head?_dropWhile_not languageSet.test rest
    rw [first] at stopped
    simpa using stopped

/-- Where a block begins that way its expression matches it to the end of its last line. -/
theorem codeBlock_matchAt? (atStart : Assertion.lineStart.holds c = true)
    (opens : opensFence opening = true) (closed : RemotelyClosed inner closing behind)
    (split : lines c.rest = opening :: (inner ++ closing :: behind)) :
    ∃ m, codeBlock.regex.matchAt? c = some m ∧
      c.Walks (joinLines (opening :: (inner ++ [closing]))) m.stop := by
  have clean : newline ∉ opening :=
    Text.newline_not_mem_of_mem_lines c.rest opening (by simp [split])
  obtain ⟨e, walk, atEnd, ⟨none, _⟩ | ⟨c₃, step, after⟩⟩ :=
    Cursor.exists_lines [opening] (by simp) split
  · simp at none
  rw [Text.joinLines_singleton] at walk
  obtain ⟨language, info, rfl, spoken, within, stopped⟩ := opensFence_split opens clean
  obtain ⟨c₁, fenced, rest⟩ := walk.of_append
  obtain ⟨c₂, named, line⟩ := rest.of_append
  have opened : Prefers (.group 1 (literal "```")) ⟨c, []⟩ _ :=
    (prefers_literal (p := ⟨c, []⟩) "```" fenced).group 1
  have titled : Prefers (.group 2 (.star true (.one languageSet))) ⟨c₁, [(1, c, c₁)]⟩ _ :=
    (prefers_star_one (p := ⟨c₁, [(1, c, c₁)]⟩) named spoken
      (line.refuses atEnd stopped (by decide))).group 2
  have ended : Prefers (.group 3 (.seq (.star true (.one notNewline)) (char '\n')))
      ⟨c₂, [(2, c₁, c₂), (1, c, c₁)]⟩ _ :=
    ((prefers_star_one (p := ⟨c₂, [(2, c₁, c₂), (1, c, c₁)]⟩) line within
      (Cursor.refuses_of_lineEnd atEnd (by decide))).seq (prefers_char step)).group 3
  obtain ⟨d, groups, tail, last⟩ := fenceTail_prefers
    (p := ⟨c₃, [(3, c₂, c₃), (2, c₁, c₂), (1, c, c₁)]⟩) closed after
  have whole : Prefers codeBlock.regex ⟨c, []⟩ ⟨d, groups⟩ :=
    (prefers_assert atStart).seq (opened.seq (titled.seq (ended.seq tail)))
  refine ⟨_, matchAt?_of_prefers whole, ?_⟩
  rw [Text.joinLines_cons _ _ (by simp)]
  exact walk.trans (step.trans last)

/-- What the expression matches has an opening fence in its first line and a closing
fence further down. -/
theorem fences_of_matchAt? {m : Match} (found : codeBlock.regex.matchAt? c = some m) :
    ∃ opening later, lines c.rest = opening :: later ∧ opensFence opening = true ∧
      ∃ line ∈ later, closesFence line = true := by
  obtain ⟨q, groups, first, rfl⟩ := matchAt?_eq_some found
  obtain ⟨c₁, language, c₂, _, fenced, all, named, _, info, c₃, c₄, c₅, filler, within, line,
    closing, filling, tail, atEnd, bodied⟩ := codeBlock_form first
  have walk : c.Walks (fence ++ language ++ info ++ [newline]) c₃ := by
    rw [List.append_assoc, List.append_assoc]
    exact fenced.trans (named.trans line)
  have clean : newline ∉ fence ++ language ++ info := by
    simp only [List.mem_append, not_or]
    exact ⟨⟨by decide, not_mem_of_allIn all (by decide)⟩, not_mem_of_allIn within (by decide)⟩
  obtain ⟨last, later, there, closes⟩ := closesFence_of_walks closing filling tail atEnd
  refine ⟨fence ++ language ++ info, lines c₃.rest, ?_, ?_, last, ?_, closes⟩
  · rw [Cursor.lines_of_walk walk, Text.lines_of_line _ clean, List.singleton_append]
  · rw [opensFence, List.isPrefixOf_iff_prefix, List.append_assoc]
    exact List.prefix_append ..
  · rcases bodied with ⟨body, e, read, step, _⟩ | ⟨rfl, _⟩
    · rw [Cursor.lines_of_walk (read.trans step), there]
      simp
    · rw [there]
      exact List.mem_cons_self

end Block

end Grammar

end MarkdownHighlight
