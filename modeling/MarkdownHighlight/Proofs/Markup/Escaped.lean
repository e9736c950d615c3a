import MarkdownHighlight.Proofs.Markup.Entities
import MarkdownHighlight.Proofs.Markup.Tags
import MarkdownHighlight.Proofs.Regex.Members

/-!
A text against its escaped form. Escaping replaces single characters by entity
references and keeps the others in their order, so it changes nothing when it is
repeated. A place of the escaped text that does not stand inside such a reference
answers to a place of the text, and what is walked over between two such places
is the escaped form of what is walked over between their counterparts.
-/

namespace MarkdownHighlight

namespace Markup

section Repeated

theorem escape_append_kept (kept b : Text)
    (plain : ∀ ch ∈ kept, ch ≠ '<' ∧ ch ≠ '>' ∧ ch ≠ '&') :
    escape (kept ++ b) = kept ++ escape b := by
  induction kept with
  | nil => rfl
  | cons c later ih =>
      obtain ⟨⟨less, greater, ampersand⟩, others⟩ := List.forall_mem_cons.mp plain
      rw [List.cons_append, escape, ih others]
      simp [escapeChar, less, greater, ampersand]

theorem kept_of_reference (body : Text) (all : ∀ ch ∈ body, ch = '#' ∨ ch.isAlphanum = true) :
    ∀ ch ∈ body ++ [';'], ch ≠ '<' ∧ ch ≠ '>' ∧ ch ≠ '&' := by
  intro ch inside
  rcases List.mem_append.mp inside with within | last
  · rcases all ch within with rfl | letter
    · decide
    · refine ⟨?_, ?_, ?_⟩ <;> rintro rfl <;> revert letter <;> decide
  · rw [List.mem_singleton.mp last]
    decide

/-- What made an ampersand the start of an entity reference is left by escaping. -/
theorem startsEntity_escape {rest : Text} (starts : startsEntity rest = true) :
    startsEntity (escape rest) = true := by
  obtain ⟨reference, later, rfl, known⟩ := (startsEntity_iff rest).mp starts
  obtain ⟨body, rfl, all⟩ := known.closed
  rw [escape_append_kept _ _ (kept_of_reference body all)]
  exact startsEntity_of_reference known (escape later)

inductive Replacement : Char → Text → Prop
  | less : Replacement '<' "lt;".toList
  | greater : Replacement '>' "gt;".toList
  | ampersand : Replacement '&' "amp;".toList

theorem escapeChar_cases (c : Char) (rest : Text) :
    (escapeChar c rest = [c] ∧ c ≠ '<' ∧ c ≠ '>' ∧ (c = '&' → startsEntity rest = true)) ∨
      ∃ name, Replacement c name ∧ escapeChar c rest = '&' :: name := by
  by_cases less : c = '<'
  · subst less
    exact Or.inr ⟨_, .less, rfl⟩
  · by_cases greater : c = '>'
    · subst greater
      exact Or.inr ⟨_, .greater, rfl⟩
    · by_cases bare : (c = '&' && !startsEntity rest) = true
      · rw [escapeChar, if_neg less, if_neg greater, if_pos bare]
        simp only [Bool.and_eq_true, decide_eq_true_eq] at bare
        obtain ⟨rfl, _⟩ := bare
        exact Or.inr ⟨_, .ampersand, rfl⟩
      · rw [escapeChar, if_neg less, if_neg greater, if_neg bare]
        refine Or.inl ⟨rfl, less, greater, fun ampersand => ?_⟩
        simpa [ampersand] using bare

theorem Replacement.escape_append {c : Char} {name : Text} (replacement : Replacement c name)
    (t : Text) : escape ('&' :: (name ++ t)) = '&' :: (name ++ escape t) := by
  have starts : startsEntity (name ++ t) = true := by
    cases replacement <;> rfl
  have kept : ∀ ch ∈ name, ch ≠ '<' ∧ ch ≠ '>' ∧ ch ≠ '&' := by
    cases replacement <;> decide
  rw [escape, escape_append_kept name t kept]
  simp [escapeChar, starts]

theorem escape_escape (t : Text) : escape (escape t) = escape t := by
  induction t with
  | nil => rfl
  | cons c rest ih =>
      rw [escape]
      rcases escapeChar_cases c rest with ⟨kept, less, greater, starts⟩ | ⟨name, replacement, put⟩
      · rw [kept, List.singleton_append, escape, ih]
        by_cases ampersand : c = '&'
        · simp [escapeChar, ampersand, startsEntity_escape (starts ampersand)]
        · simp [escapeChar, less, greater, ampersand]
      · rw [put, List.cons_append, replacement.escape_append, ih]

end Repeated

/-- The second text is the first with some characters replaced by references. -/
inductive Escaped : Text → Text → Prop
  | nil : Escaped [] []
  | keep (ch : Char) {t e : Text} (later : Escaped t e) : Escaped (ch :: t) (ch :: e)
  | replace {ch : Char} {name t e : Text} (replacement : Replacement ch name)
      (later : Escaped t e) : Escaped (ch :: t) ('&' :: (name ++ e))

def inReference (ch : Char) : Bool := "&ltgamp;".toList.contains ch

theorem Replacement.inReference {ch : Char} {name : Text} (replacement : Replacement ch name) :
    ∀ x ∈ '&' :: name, inReference x = true := by
  cases replacement <;> decide

namespace Escaped

variable {t e : Text}

theorem of_escape (t : Text) : Escaped t (escape t) := by
  induction t with
  | nil => exact .nil
  | cons c rest ih =>
      rw [escape]
      rcases escapeChar_cases c rest with ⟨kept, _⟩ | ⟨name, replacement, put⟩
      · rw [kept]
        exact .keep c ih
      · rw [put]
        exact .replace replacement ih

theorem append {t' e' : Text} (first : Escaped t e) (second : Escaped t' e') :
    Escaped (t ++ t') (e ++ e') := by
  induction first with
  | nil => exact second
  | keep ch _ ih => exact .keep ch ih
  | replace replacement _ ih =>
      rw [List.cons_append, List.cons_append, List.append_assoc]
      exact .replace replacement ih

theorem eq_nil_iff (escaped : Escaped t e) : t = [] ↔ e = [] := by
  cases escaped <;> simp

theorem eq_of_kept (escaped : Escaped t e) (kept : '&' ∉ e) : t = e := by
  induction escaped with
  | nil => rfl
  | keep ch _ ih => rw [ih fun inside => kept (List.mem_cons_of_mem ch inside)]
  | replace => exact absurd List.mem_cons_self kept

def Clear (before? after? : Option Char) : Prop :=
  ∀ a b, before? = some a → after? = some b → inReference a = false ∨ inReference b = false

theorem split {u v : Text} (escaped : Escaped t (u ++ v)) (clear : Clear u.getLast? v.head?) :
    ∃ u' v', t = u' ++ v' ∧ Escaped u' u ∧ Escaped v' v := by
  generalize whole : u ++ v = e at escaped
  induction escaped generalizing u with
  | nil =>
      obtain ⟨rfl, rfl⟩ := List.append_eq_nil_iff.mp whole
      exact ⟨[], [], rfl, .nil, .nil⟩
  | @keep ch t e later ih =>
      cases u with
      | nil =>
          rw [List.nil_append] at whole
          exact ⟨[], ch :: t, rfl, .nil, whole ▸ .keep ch later⟩
      | cons c u =>
          obtain ⟨rfl, rest⟩ := List.cons.inj whole
          obtain ⟨u', v', rfl, left, right⟩ := ih (fun a b last =>
            clear a b (by rw [List.getLast?_cons, last]; rfl)) rest
          exact ⟨c :: u', v', rfl, .keep c left, right⟩
  | @replace ch name t e replacement later ih =>
      rw [← List.cons_append] at whole
      rcases List.append_eq_append_iff.mp whole with ⟨w, inside, rfl⟩ | ⟨w, rfl, rest⟩
      · by_cases start : u = []
        · subst start
          rw [List.nil_append] at inside
          rw [← inside]
          exact ⟨[], ch :: t, rfl, .nil, .replace replacement later⟩
        · by_cases ended : w = []
          · subst ended
            rw [List.append_nil] at inside
            have alone : Escaped [ch] ('&' :: (name ++ [])) := .replace replacement .nil
            exact ⟨[ch], t, rfl, by rwa [List.append_nil, inside] at alone, later⟩
          -- Both sides of the cut would stand in the reference.
          · exfalso
            obtain ⟨b, others, rfl⟩ := List.exists_cons_of_ne_nil ended
            have both := replacement.inReference
            rw [inside] at both
            have before := both _ (List.mem_append_left _ (List.getLast_mem start))
            have after := both b (List.mem_append_right _ List.mem_cons_self)
            have apart := clear _ b (List.getLast?_eq_some_getLast start) rfl
            simp [before, after] at apart
      · obtain ⟨u', v', rfl, left, right⟩ := ih (fun a b last => clear a b (by
          rw [List.getLast?_append, last]
          rfl)) rest.symm
        exact ⟨ch :: u', v', rfl, .replace replacement left, right⟩

theorem head?_cases (escaped : Escaped t e) : t.head? = e.head? ∨
    ∃ ch name, Replacement ch name ∧ t.head? = some ch ∧ e.head? = some '&' := by
  cases escaped with
  | nil => exact Or.inl rfl
  | keep ch _ => exact Or.inl rfl
  | replace replacement _ => exact Or.inr ⟨_, _, replacement, rfl, rfl⟩

theorem getLast?_cases (escaped : Escaped t e) : t.getLast? = e.getLast? ∨
    ∃ ch name, Replacement ch name ∧ t.getLast? = some ch ∧ e.getLast? = some ';' := by
  induction escaped with
  | nil => exact Or.inl rfl
  | @keep ch t e later ih =>
      by_cases ended : t = []
      · rw [ended, later.eq_nil_iff.mp ended]
        exact Or.inl rfl
      · have more : e ≠ [] := fun none => ended (later.eq_nil_iff.mpr none)
        obtain ⟨first, others, rfl⟩ := List.exists_cons_of_ne_nil ended
        obtain ⟨first', others', rfl⟩ := List.exists_cons_of_ne_nil more
        simpa only [List.getLast?_cons_cons] using ih
  | @replace ch name t e replacement later ih =>
      by_cases ended : t = []
      · rw [ended, later.eq_nil_iff.mp ended]
        refine Or.inr ⟨ch, name, replacement, rfl, ?_⟩
        cases replacement <;> rfl
      · have more : e ≠ [] := fun none => ended (later.eq_nil_iff.mpr none)
        obtain ⟨first, others, rfl⟩ := List.exists_cons_of_ne_nil ended
        have last : ('&' :: (name ++ e)).getLast? = e.getLast? := by
          rw [← List.cons_append, List.getLast?_append, List.getLast?_eq_some_getLast more]
          rfl
        rw [last, List.getLast?_cons_cons]
        exact ih

/-- What looks at one character and takes what is replaced like what replaces it. -/
theorem head?_seen {α : Type} (escaped : Escaped t e) (see : Option Char → α)
    (same : ∀ ch name, Replacement ch name → see (some ch) = see (some '&')) :
    see t.head? = see e.head? := by
  rcases escaped.head?_cases with kept | ⟨ch, name, replacement, first, first'⟩
  · rw [kept]
  · rw [first, first', same ch name replacement]

theorem getLast?_seen {α : Type} (escaped : Escaped t e) (see : Option Char → α)
    (same : ∀ ch name, Replacement ch name → see (some ch) = see (some ';')) :
    see t.getLast? = see e.getLast? := by
  rcases escaped.getLast?_cases with kept | ⟨ch, name, replacement, last, last'⟩
  · rw [kept]
  · rw [last, last', same ch name replacement]

end Escaped

def Absorbs (set : CharSet) : Prop :=
  set.test '&' = true → set.test '<' = true ∧ set.test '>' = true

instance (set : CharSet) : Decidable (Absorbs set) :=
  inferInstanceAs (Decidable (set.test '&' = true → set.test '<' = true ∧ set.test '>' = true))

theorem Absorbs.test {set : CharSet} (absorbs : Absorbs set) {ch : Char} {name : Text}
    (replacement : Replacement ch name) (allowed : set.test '&' = true) : set.test ch = true := by
  cases replacement with
  | less => exact (absorbs allowed).1
  | greater => exact (absorbs allowed).2
  | ampersand => exact allowed

theorem Escaped.allIn {set : CharSet} {t e : Text} (escaped : Escaped t e) (absorbs : Absorbs set)
    (all : Regex.AllIn set e) : Regex.AllIn set t := by
  induction escaped with
  | nil => exact all
  | keep ch _ ih =>
      obtain ⟨here, there⟩ := List.forall_mem_cons.mp all
      exact List.forall_mem_cons.mpr ⟨here, ih there⟩
  | replace replacement _ ih =>
      obtain ⟨here, there⟩ := List.forall_mem_cons.mp all
      exact List.forall_mem_cons.mpr ⟨absorbs.test replacement here,
        ih fun ch inside => there ch (List.mem_append_right _ inside)⟩

end Markup

open Markup (Escaped Replacement inReference)

namespace Cursor

def IsClear (c : Cursor) : Prop := Escaped.Clear c.previous? c.next?

/-- A place of a text and the place of the escaped text that answers to it. -/
structure EscapesTo (c e : Cursor) : Prop where
  before : Escaped c.before.reverse e.before.reverse
  rest : Escaped c.rest e.rest

section Clear

variable {c d : Cursor} {w : Text}

theorem Walks.clear_before (walk : c.Walks w d) (some : w ≠ [])
    (foreign : ∀ ch ∈ w, inReference ch = false) : c.IsClear := by
  obtain ⟨ch, later, rfl⟩ := List.exists_cons_of_ne_nil some
  intro a b _ next
  rw [walk.next?] at next
  exact Or.inr (Option.some.inj next ▸ foreign ch List.mem_cons_self)

theorem Walks.clear_after (walk : c.Walks w d) (some : w ≠ [])
    (foreign : ∀ ch ∈ w, inReference ch = false) : d.IsClear := by
  intro a b previous _
  rw [walk.previous?_eq_getLast some] at previous
  exact Or.inl (Option.some.inj previous ▸ foreign _ (List.getLast_mem some))

theorem Walks.clear_left (walk : c.Walks w d) (foreign : ∀ ch ∈ w, inReference ch = false)
    (clear : d.IsClear) : c.IsClear := by
  by_cases none : w = []
  · subst none
    rwa [walk.eq_of_nil]
  · exact walk.clear_before none foreign

theorem clear_of_lineStart (atStart : Assertion.lineStart.holds c = true) : c.IsClear := by
  intro a b previous _
  rw [Assertion.holds, previous] at atStart
  left
  simp only [Option.all_some, beq_iff_eq] at atStart
  rw [atStart]
  decide

theorem clear_of_lineEnd (atEnd : Assertion.lineEnd.holds c = true) : c.IsClear := by
  intro a b _ next
  rw [Assertion.holds, next] at atEnd
  right
  simp only [Option.all_some, beq_iff_eq] at atEnd
  rw [atEnd]
  decide

end Clear

theorem exists_escapesTo {t : Text} {e : Cursor} (escaped : Escaped t e.text)
    (clear : e.IsClear) : ∃ c : Cursor, c.text = t ∧ c.EscapesTo e := by
  have last : e.before.reverse.getLast? = e.previous? := by
    rw [List.getLast?_reverse, previous?]
  obtain ⟨u, v, rfl, before, rest⟩ := escaped.split (by rw [last]; exact clear)
  refine ⟨⟨u.reverse, v, _, rfl⟩, ?_, ?_, rest⟩
  · simp [Cursor.text]
  · simpa using before

namespace EscapesTo

variable {c e f : Cursor} {w : Text}

theorem walk (answers : c.EscapesTo e) (walk : e.Walks w f) (clear : f.IsClear) :
    ∃ w' d, c.Walks w' d ∧ d.EscapesTo f ∧ Escaped w' w := by
  have inner : Escaped.Clear w.getLast? f.rest.head? := by
    intro a b last next
    apply clear a b _ next
    rw [previous?, walk.before_eq, List.head?_append, List.head?_reverse, last]
    rfl
  obtain ⟨w', v, split, front, back⟩ := Escaped.split (walk.rest_eq ▸ answers.rest) inner
  obtain ⟨d, walk', rest⟩ := c.exists_walk w' v split
  refine ⟨w', d, walk', ⟨?_, rest ▸ back⟩, front⟩
  rw [walk'.before_eq, walk.before_eq, List.reverse_append, List.reverse_append,
    List.reverse_reverse, List.reverse_reverse]
  exact answers.before.append front

theorem walk_kept (answers : c.EscapesTo e) (walk : e.Walks w f) (clear : f.IsClear)
    (kept : '&' ∉ w) : ∃ d, c.Walks w d ∧ d.EscapesTo f := by
  obtain ⟨w', d, walk', answers', escaped⟩ := answers.walk walk clear
  rw [escaped.eq_of_kept kept] at walk'
  exact ⟨d, walk', answers'⟩

theorem previous?_seen {α : Type} (answers : c.EscapesTo e) (see : Option Char → α)
    (same : ∀ ch name, Replacement ch name → see (some ch) = see (some ';')) :
    see c.previous? = see e.previous? := by
  have seen := answers.before.getLast?_seen see same
  rwa [List.getLast?_reverse, List.getLast?_reverse] at seen

theorem lineStart (answers : c.EscapesTo e) :
    Assertion.lineStart.holds c = Assertion.lineStart.holds e :=
  answers.previous?_seen (fun ch? => ch?.all (· == '\n')) fun _ _ replacement => by
    cases replacement <;> decide

theorem lineEnd (answers : c.EscapesTo e) :
    Assertion.lineEnd.holds c = Assertion.lineEnd.holds e :=
  answers.rest.head?_seen (fun ch? => ch?.all (· == '\n')) fun _ _ replacement => by
    cases replacement <;> decide

/-- Neither a replaced character nor the ends of a reference belong to words. -/
theorem wordBoundary (answers : c.EscapesTo e) :
    (Assertion.wordBoundary .word).holds c = (Assertion.wordBoundary .word).holds e := by
  have before : Assertion.wordBefore .word c = Assertion.wordBefore .word e :=
    answers.previous?_seen (fun ch? => ch?.any CharSet.word.test) fun _ _ replacement => by
      cases replacement <;> decide
  have after : Assertion.wordAfter .word c = Assertion.wordAfter .word e :=
    answers.rest.head?_seen (fun ch? => ch?.any CharSet.word.test) fun _ _ replacement => by
      cases replacement <;> decide
  rw [Assertion.holds, Assertion.holds, before, after]

end EscapesTo

end Cursor

end MarkdownHighlight
