import MarkdownHighlight.Markup.Render
import MarkdownHighlight.Proofs.Grammar.Cuts
import MarkdownHighlight.Proofs.Text.Lines

/-!
Markup and the text in it. Well-formed markup is a sequence of characters other
than angle brackets and of span tags that pair up; deleting what stands between
angle brackets leaves the text. Class names hold nothing that could end their
tag, and escaped text holds no angle bracket, so rendering can only put tags
around it.
-/

namespace MarkdownHighlight.Markup

def Quoted (classes : String) : Prop :=
  ∀ c ∈ classes.toList, c ≠ '<' ∧ c ≠ '>' ∧ c ≠ '"' ∧ c ≠ Text.newline

instance (classes : String) : Decidable (Quoted classes) := List.decidableBAll _ classes.toList

def Unbracketed (t : Text) : Prop := ∀ c ∈ t, c ≠ '<' ∧ c ≠ '>'

instance (t : Text) : Decidable (Unbracketed t) := List.decidableBAll _ t

/-- Characters other than angle brackets, and spans with markup inside them. -/
inductive Balanced : Text → Prop where
  | nil : Balanced []
  | char (c : Char) (rest : Text) (plain : c ≠ '<' ∧ c ≠ '>') (more : Balanced rest) :
      Balanced (c :: rest)
  | span (classes : String) (inner rest : Text) (quoted : Quoted classes)
      (within : Balanced inner) (more : Balanced rest) :
      Balanced ("<span class=\"".toList ++ classes.toList ++ "\">".toList ++ inner ++
        "</span>".toList ++ rest)

def deleteTagsFrom : Bool → Text → Text
  | _, [] => []
  | false, c :: rest => if c = '<' then deleteTagsFrom true rest else c :: deleteTagsFrom false rest
  | true, c :: rest => deleteTagsFrom (c != '>') rest

def deleteTags (markup : Text) : Text := deleteTagsFrom false markup

theorem deleteTagsFrom_inside (tag rest : Text) (inside : ∀ c ∈ tag, c ≠ '>') :
    deleteTagsFrom true (tag ++ '>' :: rest) = deleteTags rest := by
  induction tag with
  | nil => rfl
  | cons c later ih =>
      obtain ⟨here, there⟩ := List.forall_mem_cons.mp inside
      rw [List.cons_append, deleteTagsFrom, bne_iff_ne.mpr here, ih there]

theorem deleteTags_tag (tag rest : Text) (inside : Unbracketed tag) :
    deleteTags ('<' :: tag ++ '>' :: rest) = deleteTags rest :=
  deleteTagsFrom_inside tag rest fun c member => (inside c member).2

theorem deleteTags_open (classes : String) (rest : Text) (quoted : Quoted classes) :
    deleteTags ("<span class=\"".toList ++ (classes.toList ++ ("\">".toList ++ rest))) =
      deleteTags rest := by
  have inside : Unbracketed ("span class=\"".toList ++ classes.toList ++ ['"']) := by
    intro c member
    rcases List.mem_append.mp member with first | last
    · rcases List.mem_append.mp first with word | name
      · exact (by decide : Unbracketed "span class=\"".toList) c word
      · exact ⟨(quoted c name).1, (quoted c name).2.1⟩
    · exact (by decide : Unbracketed ['"']) c last
  -- The opening tag is one pair of angle brackets around what is quoted and the rest of it.
  have shape : "<span class=\"".toList ++ (classes.toList ++ ("\">".toList ++ rest)) =
      '<' :: ("span class=\"".toList ++ classes.toList ++ ['"']) ++ '>' :: rest := by
    have opening : "<span class=\"".toList = '<' :: "span class=\"".toList := rfl
    have closing : "\">".toList = ['"', '>'] := rfl
    simp [opening, closing]
  rw [shape, deleteTags_tag _ _ inside]

theorem deleteTags_close (rest : Text) :
    deleteTags ("</span>".toList ++ rest) = deleteTags rest :=
  deleteTags_tag ['/', 's', 'p', 'a', 'n'] rest (by decide)

theorem Balanced.deleteTags_append {markup : Text} (balanced : Balanced markup) (rest : Text) :
    deleteTags (markup ++ rest) = deleteTags markup ++ deleteTags rest := by
  induction balanced generalizing rest with
  | nil => rfl
  | char c later plain _ ih =>
      have kept : ∀ t, deleteTags (c :: t) = c :: deleteTags t := fun t => if_neg plain.1
      rw [List.cons_append, kept, kept, ih, List.cons_append]
  | span classes inner later quoted _ _ ihInner ihLater =>
      simp only [List.append_assoc]
      rw [deleteTags_open classes _ quoted, deleteTags_open classes _ quoted, ihInner, ihInner,
        deleteTags_close, deleteTags_close, ihLater, List.append_assoc]

theorem Balanced.count_newline {markup : Text} (balanced : Balanced markup) :
    (deleteTags markup).count Text.newline = markup.count Text.newline := by
  induction balanced with
  | nil => rfl
  | char c rest plain _ ih =>
      have kept : deleteTags (c :: rest) = c :: deleteTags rest := if_neg plain.1
      rw [kept, List.count_cons, List.count_cons, ih]
  | span classes inner rest quoted within _ ihInner ihRest =>
      have opening : "<span class=\"".toList.count Text.newline = 0 := by decide
      have closing : "\">".toList.count Text.newline = 0 := by decide
      have ending : "</span>".toList.count Text.newline = 0 := by decide
      have name : classes.toList.count Text.newline = 0 :=
        List.count_eq_zero.mpr fun inside => (quoted _ inside).2.2.2 rfl
      simp only [List.append_assoc]
      rw [deleteTags_open classes _ quoted, within.deleteTags_append, deleteTags_close]
      simp only [List.count_append, opening, closing, ending, name, ihInner, ihRest, Nat.zero_add]

theorem Balanced.append {first second : Text} (left : Balanced first) (right : Balanced second) :
    Balanced (first ++ second) := by
  induction left with
  | nil => exact right
  | char c later plain _ ih => exact .char c _ plain ih
  | span classes inner later quoted within _ _ ih =>
      rw [List.append_assoc]
      exact .span classes inner _ quoted within ih

structure Marks (markup text : Text) : Prop where
  balanced : Balanced markup
  deleted : deleteTags markup = text

namespace Marks

variable {markup text markup' text' : Text}

theorem nil : Marks [] [] := ⟨.nil, rfl⟩

theorem append (first : Marks markup text) (second : Marks markup' text') :
    Marks (markup ++ markup') (text ++ text') :=
  ⟨first.balanced.append second.balanced, by
    rw [first.balanced.deleteTags_append, first.deleted, second.deleted]⟩

theorem flatMap {α : Type} (items : List α) (form plain : α → Text)
    (marks : ∀ a ∈ items, Marks (form a) (plain a)) :
    Marks (items.flatMap form) (items.flatMap plain) := by
  induction items with
  | nil => exact nil
  | cons a later ih =>
      obtain ⟨here, there⟩ := List.forall_mem_cons.mp marks
      exact here.append (ih there)

theorem tagged (classes : String) (quoted : Quoted classes)
    (marks : Marks markup text) : Marks (Markup.tagged classes markup) text := by
  have shape : Markup.tagged classes markup = "<span class=\"".toList ++ classes.toList ++
      "\">".toList ++ markup ++ "</span>".toList ++ [] := by
    have closing : closeTag = "</span>".toList := rfl
    simp [Markup.tagged, openTag, closing]
  refine ⟨by rw [shape]; exact .span _ _ _ quoted marks.balanced .nil, ?_⟩
  rw [shape]
  simp only [List.append_assoc]
  rw [deleteTags_open _ _ quoted, marks.balanced.deleteTags_append, deleteTags_close,
    marks.deleted]
  exact List.append_nil text

theorem of_plain (plain : Unbracketed text) : Marks text text := by
  induction text with
  | nil => exact nil
  | cons c later ih =>
      obtain ⟨here, there⟩ := List.forall_mem_cons.mp plain
      have rest := ih there
      exact ⟨.char c later here rest.balanced, by
        rw [deleteTags, deleteTagsFrom, if_neg here.1]
        exact congrArg _ rest.deleted⟩

end Marks

theorem escape_plain (t : Text) : Unbracketed (escape t) := by
  induction t with
  | nil => nofun
  | cons c rest ih =>
      rw [escape]
      intro d member
      rcases List.mem_append.mp member with here | there
      · rw [escapeChar] at here
        split at here
        · exact (by decide : Unbracketed "&lt;".toList) d here
        · rename_i opening
          split at here
          · exact (by decide : Unbracketed "&gt;".toList) d here
          · rename_i closing
            split at here
            · exact (by decide : Unbracketed "&amp;".toList) d here
            · rw [List.mem_singleton.mp here]
              exact ⟨opening, closing⟩
      · exact ih d there

theorem count_newline_escape (t : Text) : (escape t).count Text.newline = t.count Text.newline := by
  induction t with
  | nil => rfl
  | cons c rest ih =>
      have here : (escapeChar c rest).count Text.newline = [c].count Text.newline := by
        rw [escapeChar]
        split
        · rename_i opening
          rw [opening]
          decide
        · split
          · rename_i closing
            rw [closing]
            decide
          · split
            · rename_i ampersand
              rw [Bool.and_eq_true, decide_eq_true_eq] at ampersand
              rw [ampersand.1]
              decide
            · rfl
      rw [escape, List.count_append, here, ih, ← List.count_append, List.singleton_append]

theorem newline_not_mem_escape (t : Text) (clean : Text.newline ∉ t) :
    Text.newline ∉ escape t := by
  rw [← List.count_eq_zero] at clean ⊢
  rw [count_newline_escape, clean]

theorem Marks.length_lines {markup text : Text} (marks : Marks markup (escape text)) :
    markup.lines.length = text.lines.length := by
  rw [Text.length_lines, Text.length_lines, ← marks.balanced.count_newline, marks.deleted,
    count_newline_escape]

theorem Quoted.append {a b : String} (first : Quoted a) (second : Quoted b) : Quoted (a ++ b) := by
  intro c member
  rw [String.toList_append, List.mem_append] at member
  rcases member with left | right
  · exact first c left
  · exact second c right

theorem quoted_className (type : TokenType) : Quoted type.className := by
  cases type <;> decide

theorem quoted_repr (n : Nat) : Quoted (Nat.repr n) := by
  intro c member
  rw [Nat.toList_repr] at member
  have digit := Nat.isDigit_of_mem_toDigits (by decide) (by decide) member
  refine ⟨?_, ?_, ?_, ?_⟩ <;> rintro rfl <;> exact absurd digit (by decide)

theorem quoted_tokenClasses (kind : TokenKind) : Quoted (tokenClasses kind) := by
  have base : Quoted ("md-" ++ kind.type.className) :=
    Quoted.append (by decide) (quoted_className _)
  rw [tokenClasses]
  cases kind.level? with
  | none => exact base
  | some level =>
      exact (((base.append (by decide)).append base).append (by decide)).append (quoted_repr level)

theorem quoted_partClass (type : TokenType) (role : Role) (known : role.Known) (classes : String)
    (found : partClass? type role = some classes) : Quoted classes := by
  have base : Quoted ("md-" ++ type.className) := Quoted.append (by decide) (quoted_className _)
  cases role with
  | marker =>
      rw [← Option.some.inj found]
      exact base.append (by decide)
  | content =>
      rw [← Option.some.inj found]
      exact base.append (by decide)
  | plain => cases found
  | metadata name =>
      rw [← Option.some.inj found]
      rcases known with rfl | rfl | rfl <;> exact (base.append (by decide)).append (by decide)

end MarkdownHighlight.Markup
