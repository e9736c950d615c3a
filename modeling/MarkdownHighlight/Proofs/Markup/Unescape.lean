import MarkdownHighlight.Proofs.Markup.Escaped

/-!
Escaped text and what can be read back of it. Escaping leaves no angle bracket, and no
ampersand but in front of an entity reference; text of that kind is left as it is. Of a text
without entity references nothing is lost: one pass over the escaped text that replaces the
references to the three characters gives it back.
-/

namespace MarkdownHighlight.Markup

structure Safe (t : Text) : Prop where
  less : '<' ∉ t
  greater : '>' ∉ t
  ampersand : ∀ before after, t = before ++ '&' :: after → BeginsReference after

def Referenceless (t : Text) : Prop :=
  ∀ before after, t = before ++ '&' :: after → ¬ BeginsReference after

def unescape : Text → Text
  | '&' :: 'l' :: 't' :: ';' :: rest => '<' :: unescape rest
  | '&' :: 'g' :: 't' :: ';' :: rest => '>' :: unescape rest
  | '&' :: 'a' :: 'm' :: 'p' :: ';' :: rest => '&' :: unescape rest
  | c :: rest => c :: unescape rest
  | [] => []

section Safe

variable {c : Char} {t rest : Text}

theorem safe_nil : Safe [] := ⟨List.not_mem_nil, List.not_mem_nil, by simp⟩

theorem safe_cons : Safe (c :: rest) ↔
    c ≠ '<' ∧ c ≠ '>' ∧ (c = '&' → startsEntity rest = true) ∧ Safe rest := by
  constructor
  · rintro ⟨less, greater, ampersand⟩
    rw [List.mem_cons, not_or] at less greater
    refine ⟨Ne.symm less.1, Ne.symm greater.1, ?_, less.2, greater.2, ?_⟩
    · rintro rfl
      exact (startsEntity_iff rest).mpr (ampersand [] rest rfl)
    · rintro before after rfl
      exact ampersand (c :: before) after rfl
  · rintro ⟨less, greater, starts, later⟩
    refine ⟨by simp [less.symm, later.less], by simp [greater.symm, later.greater], ?_⟩
    intro before after split
    rcases List.cons_eq_append_iff.mp split with ⟨rfl, same⟩ | ⟨before, rfl, rfl⟩
    · obtain ⟨rfl, rfl⟩ := List.cons.inj same
      exact (startsEntity_iff after).mp (starts rfl)
    · exact later.ampersand before after rfl

theorem safe_append_kept {kept : Text} (plain : ∀ ch ∈ kept, ch ≠ '<' ∧ ch ≠ '>' ∧ ch ≠ '&')
    (later : Safe t) : Safe (kept ++ t) := by
  induction kept with
  | nil => exact later
  | cons ch others ih =>
      obtain ⟨⟨less, greater, ampersand⟩, plain⟩ := List.forall_mem_cons.mp plain
      exact safe_cons.mpr ⟨less, greater, fun same => absurd same ampersand, ih plain⟩

theorem Replacement.safe {name : Text} (replacement : Replacement c name) (later : Safe t) :
    Safe ('&' :: (name ++ t)) := by
  have starts : startsEntity (name ++ t) = true := by
    cases replacement <;> rfl
  have kept : ∀ ch ∈ name, ch ≠ '<' ∧ ch ≠ '>' ∧ ch ≠ '&' := by
    cases replacement <;> decide
  exact safe_cons.mpr ⟨by decide, by decide, fun _ => starts, safe_append_kept kept later⟩

theorem safe_escape (t : Text) : Safe (escape t) := by
  induction t with
  | nil => exact safe_nil
  | cons c rest ih =>
      rw [escape]
      rcases escapeChar_cases c rest with ⟨kept, less, greater, starts⟩ | ⟨name, replacement, put⟩
      · rw [kept, List.singleton_append, safe_cons]
        exact ⟨less, greater, fun same => startsEntity_escape (starts same), ih⟩
      · rw [put]
        exact replacement.safe ih

theorem escape_of_safe (safe : Safe t) : escape t = t := by
  induction t with
  | nil => rfl
  | cons c rest ih =>
      obtain ⟨less, greater, starts, later⟩ := safe_cons.mp safe
      rw [escape, ih later]
      by_cases ampersand : c = '&'
      · simp [escapeChar, ampersand, starts ampersand]
      · simp [escapeChar, less, greater, ampersand]

instance (t : Text) : Decidable (Safe t) :=
  decidable_of_iff (escape t = t) ⟨fun same => same ▸ safe_escape t, escape_of_safe⟩

end Safe

section Unescape

variable {c : Char} {t rest : Text}

theorem unescape_of_ne (other : c ≠ '&') : unescape (c :: rest) = c :: unescape rest := by
  rw [unescape] <;> simp [other]

theorem Replacement.unescape_append {name : Text} (replacement : Replacement c name) (t : Text) :
    unescape ('&' :: (name ++ t)) = c :: unescape t := by
  cases replacement <;> rfl

theorem referenceless_cons : Referenceless (c :: rest) ↔
    (c = '&' → startsEntity rest = false) ∧ Referenceless rest := by
  constructor
  · refine fun plain => ⟨?_, ?_⟩
    · rintro rfl
      rw [Bool.eq_false_iff, ne_eq, startsEntity_iff]
      exact plain [] rest rfl
    · rintro before after rfl
      exact plain (c :: before) after rfl
  · rintro ⟨starts, later⟩ before after split
    rcases List.cons_eq_append_iff.mp split with ⟨rfl, same⟩ | ⟨before, rfl, rfl⟩
    · obtain ⟨rfl, rfl⟩ := List.cons.inj same
      rw [← startsEntity_iff, starts rfl]
      exact Bool.false_ne_true
    · exact later before after rfl

instance : (t : Text) → Decidable (Referenceless t)
  | [] => isTrue (by simp [Referenceless])
  | c :: rest =>
      have := instDecidableReferenceless rest
      decidable_of_iff _ referenceless_cons.symm

/-- Every ampersand of the escaped text was put in, so each is read back as what it stands for. -/
theorem unescape_escape (plain : Referenceless t) : unescape (escape t) = t := by
  induction t with
  | nil => rfl
  | cons c rest ih =>
      obtain ⟨starts, later⟩ := referenceless_cons.mp plain
      rw [escape]
      rcases escapeChar_cases c rest with ⟨kept, _, _, known⟩ | ⟨name, replacement, put⟩
      · have other : c ≠ '&' := by
          intro ampersand
          rw [known ampersand] at starts
          cases starts ampersand
        rw [kept, List.singleton_append, unescape_of_ne other, ih later]
      · rw [put, List.cons_append, replacement.unescape_append, ih later]

end Unescape

/-- Escaping is safe, leaves what is safe as it is, and can be undone where the text has no
entity references of its own. -/
theorem escape_safe_reversible (t : Text) : Safe (escape t) ∧ (Safe t → escape t = t) ∧
    escape (escape t) = escape t ∧ (Referenceless t → unescape (escape t) = t) :=
  ⟨safe_escape t, escape_of_safe, escape_escape t, unescape_escape⟩

/-- What only looks like a reference is read back; a reference of the text's own is kept, and
then it is not. -/
theorem escape_safe_reversible_mixed :
    let bare : Text := "AT&T <&#xZ; &#12345678; &amp>".toList
    let own : Text := "&amp; &#39; &#x1F600; &copy;".toList
    Referenceless bare ∧ unescape (escape bare) = bare ∧
      Safe own ∧ escape own = own ∧ ¬ Referenceless own ∧ unescape (escape own) ≠ own := by
  intro bare own
  have plain : Referenceless bare := by decide
  have safe : Safe own := by decide
  exact ⟨plain, (escape_safe_reversible bare).2.2.2 plain, safe,
    (escape_safe_reversible own).2.1 safe, by decide, by decide⟩

end MarkdownHighlight.Markup
