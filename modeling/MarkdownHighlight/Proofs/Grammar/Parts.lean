import Mathlib.Data.List.Chain
import MarkdownHighlight.Grammar.Markdown
import MarkdownHighlight.Proofs.Grammar.Cuts

/-!
What cutting a match can come to. The parts of a match can also be put together
cut by cut, with a flag that goes up at the first cut that goes backwards or too
far and never comes down again; that is the same as cutting in one go. Either
the ends of the cuts rise from the start of the match to its end and the parts
tile it, or the whole list is refused. An extraction asks for groups and cuts
once, so whatever the groups are it fails as its own pattern or tiles the match.
-/

namespace MarkdownHighlight

def Span.Rises (s : Span) (ends : List Nat) : Prop :=
  (s.start :: (ends ++ [s.stop])).IsChain (· ≤ ·)

instance (s : Span) (ends : List Nat) : Decidable (s.Rises ends) :=
  inferInstanceAs (Decidable (List.IsChain _ _))

namespace Part

def pieces (start : Nat) (cuts : List Cut) : List Part :=
  List.zipWith (fun first c => ⟨c.role, ⟨first, c.stop⟩⟩) (start :: cuts.map (·.stop)) cuts

def kept (p : Part) : Bool := p.span.start < p.span.stop || p.role == .content

structure Laid (span : Span) (cuts : List Cut) (parts : List Part) : Prop where
  /-- The pieces of the cuts in their order, and only empty ones are missing. -/
  ordered : parts = (pieces span.start cuts).filter kept
  tiles : Span.Tiles span.start span.stop (parts.map (·.span))
  solid : ∀ p ∈ parts, p.span.start = p.span.stop → p.role = .content

theorem ofCuts_eq_pieces (start : Nat) (cuts : List Cut) :
    ofCuts start cuts = (pieces start cuts).filter kept := by
  induction cuts generalizing start with
  | nil => rfl
  | cons c later ih =>
      have unfolded : pieces start (c :: later) =
          ⟨c.role, ⟨start, c.stop⟩⟩ :: pieces c.stop later := rfl
      rw [ofCuts, ih, unfolded, List.filter_cons, kept, ofCut]
      split <;> rfl

theorem count_content_ofCuts (start : Nat) (cuts : List Cut) :
    (ofCuts start cuts).countP (·.role == .content) = cuts.countP (·.role == .content) := by
  induction cuts generalizing start with
  | nil => rfl
  | cons c later ih =>
      rw [ofCuts, List.countP_append, ih, List.countP_cons, Nat.add_comm]
      by_cases content : c.role = .content
      · simp [ofCut, content]
      · rw [ofCut]
        split <;> simp [content]

/-- With a tail to the end of the span, cuts ascend just when their ends rise. -/
theorem ascending_iff_rises (span : Span) (cuts : List Cut) (tail : Role) :
    Ascending span.stop span.start (cuts ++ [⟨tail, span.stop⟩]) ↔
      span.Rises (cuts.map (·.stop)) := by
  obtain ⟨start, stop⟩ := span
  simp only [Span.Rises]
  induction cuts generalizing start with
  | nil => simp [Ascending]
  | cons c later ih =>
      simp only [List.map_cons, List.cons_append, List.isChain_cons_cons, Ascending, ← ih]
      constructor
      · rintro ⟨forward, _, rest⟩
        exact ⟨forward, rest⟩
      · rintro ⟨forward, rest⟩
        -- The bound need not be asked of every end: the tail is at the limit.
        have within : c.stop ≤ stop := by
          cases later with
          | nil => exact rest.1
          | cons d _ => exact Nat.le_trans rest.1 rest.2.1
        exact ⟨forward, within, rest⟩

theorem lastStop_append (start : Nat) (cuts : List Cut) (c : Cut) :
    lastStop start (cuts ++ [c]) = c.stop := by
  induction cuts generalizing start with
  | nil => rfl
  | cons d later ih => exact ih d.stop

theorem laid_ofCuts (span : Span) (cuts : List Cut) (tail : Role)
    (rises : span.Rises (cuts.map (·.stop))) :
    Laid span (cuts ++ [⟨tail, span.stop⟩])
      (ofCuts span.start (cuts ++ [⟨tail, span.stop⟩])) where
  ordered := ofCuts_eq_pieces ..
  tiles := by
    have ascending := (ascending_iff_rises span cuts tail).mpr rises
    have tiled := tiles_ofCuts span.stop span.start _ ascending
    rwa [lastStop_append] at tiled
  solid := by
    intro p member empty
    rw [ofCuts_eq_pieces] at member
    have survives := (List.mem_filter.mp member).2
    simpa [kept, empty] using survives

theorem tile_of_rises (name : String) (span : Span) (cuts : List Cut) (tail : Role)
    (rises : span.Rises (cuts.map (·.stop))) :
    tile name span cuts tail = .ok (ofCuts span.start (cuts ++ [⟨tail, span.stop⟩])) :=
  tile_of_ascending name span cuts tail ((ascending_iff_rises span cuts tail).mpr rises)

example : tile "header" ⟨0, 4⟩ [⟨.marker, 2⟩, ⟨.plain, 2⟩, ⟨.content, 2⟩] .plain =
    .ok [⟨.marker, ⟨0, 2⟩⟩, ⟨.content, ⟨2, 2⟩⟩, ⟨.plain, ⟨2, 4⟩⟩] := by rfl

theorem tile_of_not_rises (name : String) (span : Span) (cuts : List Cut) (tail : Role)
    (refused : ¬ span.Rises (cuts.map (·.stop))) :
    tile name span cuts tail = .error (.extract name (.misordered span)) := by
  have none : tile? span cuts tail = none := by
    rw [Option.eq_none_iff_forall_ne_some]
    intro parts cut
    have ascending := ((tileWithin_eq_some_iff ..).mp cut).1
    exact refused ((ascending_iff_rises span cuts tail).mp ascending)
  rw [tile, none]

end Part

/-- The parts of a span as far as they are put together: the place up to which
the span is covered, and whether a cut was out of order. -/
structure PartBuilder where
  span : Span
  place : Nat
  parts : List Part
  misordered : Bool

namespace PartBuilder

def ofSpan (span : Span) : PartBuilder := ⟨span, span.start, [], false⟩

/-- A cut that is out of order is not recorded, but never forgotten. -/
def push (b : PartBuilder) (c : Cut) : PartBuilder :=
  if c.stop < b.place || b.span.stop < c.stop then { b with misordered := true }
  else { b with place := c.stop, parts := b.parts ++ Part.ofCut b.place c }

def pushAll (b : PartBuilder) (cuts : List Cut) : PartBuilder := cuts.foldl push b

def finish (b : PartBuilder) (name : String) (tail : Role) : Except HighlightError (List Part) :=
  let done := b.push ⟨tail, b.span.stop⟩
  if done.misordered then .error (.extract name (.misordered done.span)) else .ok done.parts

theorem push_cases (b : PartBuilder) (c : Cut) :
    (b.place ≤ c.stop ∧ c.stop ≤ b.span.stop ∧
      b.push c = { b with place := c.stop, parts := b.parts ++ Part.ofCut b.place c }) ∨
    (¬ (b.place ≤ c.stop ∧ c.stop ≤ b.span.stop) ∧ b.push c = { b with misordered := true }) := by
  by_cases back : c.stop < b.place ∨ b.span.stop < c.stop
  · refine Or.inr ⟨by omega, ?_⟩
    rw [push, if_pos (by simpa using back)]
  · refine Or.inl ⟨by omega, by omega, ?_⟩
    rw [push, if_neg (by simpa using back)]

theorem pushAll_append (b : PartBuilder) (before after : List Cut) :
    b.pushAll (before ++ after) = (b.pushAll before).pushAll after := List.foldl_append

theorem pushAll_span (b : PartBuilder) (cuts : List Cut) : (b.pushAll cuts).span = b.span := by
  induction cuts generalizing b with
  | nil => rfl
  | cons c later ih =>
      refine (ih (b.push c)).trans ?_
      obtain ⟨_, _, pushed⟩ | ⟨_, pushed⟩ := b.push_cases c <;> rw [pushed]

/-- The flag is up after some cuts just when it was up before them, or one of
them is out of order; what is pushed after that one makes no difference. -/
theorem pushAll_misordered (b : PartBuilder) (cuts : List Cut) :
    (b.pushAll cuts).misordered = true ↔
      b.misordered = true ∨ ¬ Part.Ascending b.span.stop b.place cuts := by
  induction cuts generalizing b with
  | nil => simp [pushAll, Part.Ascending]
  | cons c later ih =>
      refine (ih (b.push c)).trans ?_
      obtain ⟨forward, within, pushed⟩ | ⟨back, pushed⟩ := b.push_cases c
      · simp [pushed, Part.Ascending, forward, within]
      · have refused : ¬ Part.Ascending b.span.stop b.place (c :: later) :=
          fun ascending => back ⟨ascending.1, ascending.2.1⟩
        simp [pushed, refused]

theorem pushAll_parts (b : PartBuilder) (cuts : List Cut)
    (ascending : Part.Ascending b.span.stop b.place cuts) :
    (b.pushAll cuts).parts = b.parts ++ Part.ofCuts b.place cuts := by
  induction cuts generalizing b with
  | nil => simp [pushAll, Part.ofCuts]
  | cons c later ih =>
      obtain ⟨forward, within, rest⟩ := ascending
      obtain ⟨_, _, pushed⟩ | ⟨back, _⟩ := b.push_cases c
      · have run := ih (b.push c) (by rwa [pushed])
        rw [pushed, List.append_assoc] at run
        rw [Part.ofCuts, ← run, ← pushed]
        rfl
      · exact absurd ⟨forward, within⟩ back

theorem finish_pushAll (b : PartBuilder) (name : String) (cuts : List Cut) (tail : Role) :
    (b.pushAll cuts).finish name tail =
      if (b.pushAll (cuts ++ [⟨tail, b.span.stop⟩])).misordered then
        .error (.extract name (.misordered b.span))
      else .ok (b.pushAll (cuts ++ [⟨tail, b.span.stop⟩])).parts := by
  have done : (b.pushAll cuts).push ⟨tail, (b.pushAll cuts).span.stop⟩ =
      b.pushAll (cuts ++ [⟨tail, b.span.stop⟩]) := by
    rw [pushAll_append, pushAll_span]
    rfl
  rw [finish, done, pushAll_span]

theorem finish_eq_tile (name : String) (span : Span) (cuts : List Cut) (tail : Role) :
    ((ofSpan span).pushAll cuts).finish name tail = Part.tile name span cuts tail := by
  have flag := pushAll_misordered (ofSpan span) (cuts ++ [⟨tail, span.stop⟩])
  have asked := Part.ascending_iff_rises span cuts tail
  rw [finish_pushAll]
  by_cases rises : span.Rises (cuts.map (·.stop))
  · have ascending := asked.mpr rises
    have down : ¬ ((ofSpan span).pushAll (cuts ++ [⟨tail, span.stop⟩])).misordered = true := by
      rw [flag]
      rintro (up | refused)
      · cases up
      · exact refused ascending
    rw [Part.tile_of_rises name span cuts tail rises]
    refine (if_neg down).trans ?_
    rw [pushAll_parts _ _ ascending]
    rfl
  · rw [Part.tile_of_not_rises name span cuts tail rises]
    exact if_pos (flag.mpr (Or.inr fun ascending => rises (asked.mp ascending)))

end PartBuilder

/-- A result that is of this kind, unless it is an error of the pattern of that name. -/
def Gives {Value : Type} (name : String) (expected : Value → Prop) :
    Except HighlightError Value → Prop
  | .ok value => expected value
  | .error error => ∃ cause, error = .extract name cause

namespace Gives

variable {Value Next : Type} {name : String}

theorem bind {expected : Value → Prop} {wanted : Next → Prop}
    {result : Except HighlightError Value} {next : Value → Except HighlightError Next}
    (given : Gives name expected result)
    (goesOn : ∀ value, expected value → Gives name wanted (next value)) :
    Gives name wanted (result >>= next) := by
  cases result with
  | ok value => exact goesOn value given
  | error error => exact given

theorem require (c : Captures) (name : String) (index : Nat) :
    Gives name (c.group? index = some ·) (c.require name index) := by
  rw [Captures.require]
  cases present : c.group? index with
  | some e => exact rfl
  | none => exact ⟨_, rfl⟩

theorem requireFirst (c : Captures) (name : String) (indices : List Nat) (cause : Mismatch) :
    Gives name (c.firstOf? indices = some ·) (c.requireFirst name indices cause) := by
  rw [Captures.requireFirst]
  cases present : c.firstOf? indices with
  | some e => exact rfl
  | none => exact ⟨cause, rfl⟩

theorem tile (name : String) (span : Span) (cuts : List Cut) (tail : Role)
    (single : (cuts ++ [(⟨tail, span.stop⟩ : Cut)]).countP (·.role == .content) = 1) :
    Gives name (fun parts => Span.Tiles span.start span.stop (parts.map (·.span)) ∧
      parts.countP (·.role == .content) = 1) (Part.tile name span cuts tail) := by
  by_cases rises : span.Rises (cuts.map (·.stop))
  · rw [Part.tile_of_rises name span cuts tail rises]
    exact ⟨(Part.laid_ofCuts span cuts tail rises).tiles,
      (Part.count_content_ofCuts ..).trans single⟩
  · rw [Part.tile_of_not_rises name span cuts tail rises]
    exact ⟨_, rfl⟩

end Gives

structure Token.Answers (c : Captures) (type : TokenType) (t : Token) : Prop where
  typed : t.type = type
  whole : c.group? 0 = some t.source
  tiles : Span.Tiles t.span.start t.span.stop (t.parts.map (·.span))
  single : t.parts.countP (·.role == .content) = 1

theorem Gives.token {c : Captures} {name : String} {type : TokenType} {kind : TokenKind}
    {whole : Excerpt} {cuts : List Cut} {tail : Role} (here : c.group? 0 = some whole)
    (typed : kind.type = type)
    (single : (cuts ++ [(⟨tail, whole.span.stop⟩ : Cut)]).countP (·.role == .content) = 1) :
    Gives name (Token.Answers c type) (do
      let parts ← Part.tile name whole.span cuts tail
      return ⟨kind, whole, parts⟩) :=
  (Gives.tile name whole.span cuts tail single).bind fun _ cut => ⟨typed, here, cut.1, cut.2⟩

namespace Extraction

/-- Whatever the groups are, the extraction fails as the pattern of that name,
or answers with a token of that type. -/
def Answers (name : String) (type : TokenType) (e : Extraction) : Prop :=
  ∀ c : Captures, Gives name (Token.Answers c type) (e c)

theorem codeBlock_answers : codeBlock.Answers "code_block" .codeBlock := by
  intro c
  refine (Gives.require c _ 0).bind fun whole here => (Gives.require c _ 1).bind fun fence _ =>
    (Gives.require c _ 2).bind fun language _ => (Gives.require c _ 3).bind fun info _ =>
    (Gives.require c _ 5).bind fun closing _ => ?_
  exact .token here rfl rfl

theorem codeInline_answers : codeInline.Answers "code_inline" .codeInline := by
  intro c
  refine (Gives.require c _ 0).bind fun whole here => (Gives.require c _ 2).bind fun content _ => ?_
  exact .token here rfl rfl

theorem header_answers : header.Answers "header" .header := by
  intro c
  refine (Gives.require c _ 0).bind fun whole here => (Gives.require c _ 1).bind fun hashes _ =>
    (Gives.require c _ 2).bind fun content _ => ?_
  exact .token here rfl rfl

theorem delimited_answers (name : String) (openings contents : List Nat)
    (kind : Text → Text → TokenKind) (type : TokenType)
    (typed : ∀ content opening, (kind content opening).type = type) :
    (delimited name openings contents kind).Answers name type := by
  intro c
  refine (Gives.require c _ 0).bind fun whole here =>
    (Gives.requireFirst c _ openings _).bind fun opening _ =>
    (Gives.requireFirst c _ contents _).bind fun content _ => ?_
  exact .token here (typed _ _) rfl

theorem link_answers : link.Answers "link" .link := by
  intro c
  refine (Gives.require c _ 0).bind fun whole here => (Gives.require c _ 1).bind fun opening _ =>
    (Gives.require c _ 2).bind fun text _ => ?_
  cases linkDestination? c with
  | none => exact ⟨.noTarget, rfl⟩
  | some found => exact .token here rfl rfl

theorem blockquote_answers : blockquote.Answers "blockquote" .blockquote := by
  intro c
  refine (Gives.require c _ 0).bind fun whole here => (Gives.require c _ 1).bind fun indent _ =>
    (Gives.require c _ 2).bind fun markers _ => (Gives.require c _ 3).bind fun content _ => ?_
  exact .token here rfl rfl

theorem list_answers : list.Answers "list" .list := by
  intro c
  refine (Gives.require c _ 0).bind fun whole here => (Gives.require c _ 1).bind fun indent _ =>
    (Gives.require c _ 2).bind fun marker _ => (Gives.require c _ 3).bind fun gap _ =>
    (Gives.require c _ 4).bind fun content _ => ?_
  exact .token here rfl rfl

theorem table_answers : table.Answers "table" .table := by
  intro c
  refine (Gives.require c _ 0).bind fun whole here => (Gives.require c _ 1).bind fun indent _ =>
    (Gives.require c _ 2).bind fun opening _ => (Gives.require c _ 3).bind fun content _ =>
    (Gives.require c _ 4).bind fun closing _ => ?_
  exact .token here rfl rfl

end Extraction

theorem Grammar.markdown_answers : ∀ p ∈ markdown, p.extraction.Answers p.name p.type := by
  simp only [markdown, List.forall_mem_cons]
  exact ⟨Extraction.codeBlock_answers, Extraction.codeInline_answers, Extraction.header_answers,
    Extraction.delimited_answers _ _ _ _ _ fun _ _ => rfl,
    Extraction.delimited_answers _ _ _ _ _ fun _ _ => rfl,
    Extraction.delimited_answers _ _ _ _ _ fun _ _ => rfl,
    Extraction.link_answers, Extraction.blockquote_answers, Extraction.list_answers,
    Extraction.table_answers, List.forall_mem_nil _⟩

/-- Parts put together cut by cut tile their span when the ends of the cuts rise
from its start to its end, and are refused otherwise, whatever comes after the
first cut that is out of order. So no groups at all, of another construct or
another text, make a construct of the grammar answer with parts that do not tile
the match, or with another number of content parts than one. -/
theorem parts_tile_or_fail :
    (∀ (name : String) (span : Span) (cuts : List Cut) (tail : Role),
      let built := ((PartBuilder.ofSpan span).pushAll cuts).finish name tail
      built = Part.tile name span cuts tail ∧
      (span.Rises (cuts.map (·.stop)) →
        ∃ parts, built = .ok parts ∧ Part.Laid span (cuts ++ [⟨tail, span.stop⟩]) parts) ∧
      (¬ span.Rises (cuts.map (·.stop)) → built = .error (.extract name (.misordered span)))) ∧
    ∀ p ∈ Grammar.markdown, p.extraction.Answers p.name p.type := by
  refine ⟨fun name span cuts tail => ?_, Grammar.markdown_answers⟩
  intro built
  have same : built = Part.tile name span cuts tail :=
    PartBuilder.finish_eq_tile name span cuts tail
  refine ⟨same, ?_, ?_⟩
  · intro rises
    exact ⟨_, same.trans (Part.tile_of_rises name span cuts tail rises),
      Part.laid_ofCuts span cuts tail rises⟩
  · intro refused
    exact same.trans (Part.tile_of_not_rises name span cuts tail refused)

/-- A cut goes back and the next one is in order again; and the groups of a list
item are read as those of a blockquote, with the gap as its content. -/
theorem parts_tile_or_fail_of_foreign :
    (¬ Span.Rises ⟨0, 10⟩ [5, 3, 7] ∧
      Part.tile "list" ⟨0, 10⟩ [⟨.marker, 5⟩, ⟨.content, 3⟩, ⟨.plain, 7⟩] .marker =
        .error (.extract "list" (.misordered ⟨0, 10⟩))) ∧
    let item : Captures := ⟨[(0, ⟨0, "- x".toList⟩), (1, ⟨0, []⟩), (2, ⟨0, "-".toList⟩),
      (3, ⟨1, " ".toList⟩), (4, ⟨2, "x".toList⟩)]⟩
    Grammar.blockquote ∈ Grammar.markdown ∧
    ∃ t, Grammar.blockquote.extraction item = .ok t ∧ t.Answers item .blockquote := by
  have back : ¬ Span.Rises ⟨0, 10⟩ [5, 3, 7] := by decide
  obtain ⟨same, -, refuses⟩ := parts_tile_or_fail.1 "list" ⟨0, 10⟩
    [⟨.marker, 5⟩, ⟨.content, 3⟩, ⟨.plain, 7⟩] .marker
  refine ⟨⟨back, same.symm.trans (refuses back)⟩, ?_⟩
  intro item
  have listed : Grammar.blockquote ∈ Grammar.markdown := by simp [Grammar.markdown]
  have answered := parts_tile_or_fail.2 Grammar.blockquote listed item
  exact ⟨listed, _, rfl, answered⟩

end MarkdownHighlight
