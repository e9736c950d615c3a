import Mathlib.Data.List.Nodup
import Mathlib.Data.List.Perm.Subperm
import MarkdownHighlight.Proofs.Claim.Apart
import MarkdownHighlight.Proofs.Terminal.Layers
import MarkdownHighlight.Proofs.Token.BlockLines
import MarkdownHighlight.Proofs.Token.Levels

/-!
How deep a tree can be. A construct cannot stand in another of its family: two of one type
are apart, a line is one construct of whole lines at most, and code holds no code. So a way
down a tree meets every family once, whatever the text is.
-/

namespace MarkdownHighlight

open Grammar (markdown)

inductive Family where
  | line
  | code
  | bold
  | italic
  | strikethrough
  | link
  | text
  deriving DecidableEq

namespace Family

def ofTokens : List Family := [.line, .code, .bold, .italic, .strikethrough, .link]

def all : List Family := .text :: ofTokens

end Family

namespace TokenType

def family : TokenType → Family
  | .header | .blockquote | .list | .table => .line
  | .codeInline | .codeBlock => .code
  | .bold => .bold
  | .italic => .italic
  | .strikethrough => .strikethrough
  | .link => .link
  | .text => .text

theorem family_cases {type other : TokenType} (same : type.family = other.family) :
    type = other ∨ (type.isLine = true ∧ other.isLine = true) ∨
      (type.isOpaque = true ∧ other.isOpaque = true) := by
  cases type <;> cases other <;>
    first
    | exact Or.inl rfl
    | exact Or.inr (Or.inl ⟨rfl, rfl⟩)
    | exact Or.inr (Or.inr ⟨rfl, rfl⟩)
    | cases same

theorem family_mem_all (type : TokenType) : type.family ∈ Family.all := by
  cases type <;> decide

theorem family_mem_ofTokens {type : TokenType} (other : type ≠ .text) :
    type.family ∈ Family.ofTokens := by
  cases type <;> first | decide | exact absurd rfl other

theorem family_of_isLine {type : TokenType} (line : type.isLine = true) : type.family = .line := by
  cases type <;> first | rfl | cases line

end TokenType

def Token.ApartInFamily (t u : Token) : Prop :=
  t.type.family = u.type.family → t.span.disjoint u.span = true

namespace Plain

theorem Sourced.exists_line {text : Text} {t : Token} (sourced : Sourced markdown text t)
    (typed : t.type.isLine = true) : ∃ (c d : Cursor) (line : Text), c.text = text ∧
      c.Line d line ∧ t.span = ⟨c.offset, d.offset⟩ ∧ c.offset < d.offset := by
  obtain ⟨p, member, c, m, same, found, reads⟩ := sourced
  have type := reads.type_eq
  have readsLines := Grammar.markdown_readsLines p member (type ▸ typed)
  obtain ⟨_, _, _, _, there, _⟩ := readsLines.spells c m found
  have nonempty := reads.wellCut.solid.nonempty
  rw [reads.span_eq] at nonempty
  exact ⟨c, m.stop, _, same, there, reads.span_eq, nonempty⟩

theorem accept_apartInFamily (text : Text) :
    (accept markdown text).Pairwise Token.ApartInFamily := by
  have nested := accept_nested markdown Grammar.markdown_lawful text
  apply ((accept_apart text).and nested.nests).imp_of_mem
  rintro t u first second ⟨apart, nests⟩ same
  rcases TokenType.family_cases same with type | ⟨line, line'⟩ | ⟨code, code'⟩
  · exact apart type
  · by_contra overlaps
    -- Two tokens of whole lines that are not apart stand in one line, and so are one token.
    obtain ⟨c, d, _, rfl, here, span, nonempty⟩ := (nested.sourced t first).exists_line line
    have self : t.span.disjoint ⟨c.offset, d.offset⟩ = false := by
      rw [Bool.eq_false_iff, ne_eq, span, Span.disjoint_iff]
      simp only
      omega
    have other : u.span.disjoint ⟨c.offset, d.offset⟩ = false := by
      rw [← span, Span.disjoint_comm]
      exact Bool.eq_false_iff.mpr overlaps
    obtain rfl := one_at_line here (nested.sourced t first) (nested.sourced u second) line line'
      self other
    exact overlaps (apart rfl)
  · rw [Token.nestsWith_comm, Token.nestsWith_iff] at nests
    simpa [Token.holds, code, code'] using nests

end Plain

namespace Node

variable {text : Text} {nodes path : List Node}

theorem tokens_sublist {n : Node} (member : n ∈ nodes) : n.tokens.Sublist (tokensAll nodes) := by
  obtain ⟨before, after, rfl⟩ := List.append_of_mem member
  rw [tokensAll_append, tokensAll]
  exact (List.sublist_append_left _ _).trans (List.sublist_append_right _ _)

theorem Descent.cases_of_mem (descent : Descent nodes path) :
    ∀ m ∈ path, m.type = .text ∨ ∃ t ∈ tokensAll nodes, m.type = t.type := by
  induction descent with
  | stop => exact nofun
  | @step nodes path n member below ih =>
      have inside := (tokens_sublist member).subset
      refine List.forall_mem_cons.mpr ⟨?_, fun m passed => (ih m passed).imp id ?_⟩
      · cases n with
        | text => exact Or.inl rfl
        | token t => exact Or.inr ⟨t, inside List.mem_cons_self, rfl⟩
      · rintro ⟨t, present, type⟩
        cases n with
        | text => cases present
        | token u => exact ⟨t, inside (List.mem_cons_of_mem u present), type⟩

/-- No token below another is of its family, for it has bytes of the other. -/
theorem Sound.family_ne {t u : Token} {children : List Node}
    (sound : (Node.token t children).Sound text) (apart : t.ApartInFamily u)
    (below : u ∈ tokensAll children) : t.type.family ≠ u.type.family := by
  intro same
  have inside : u ∈ (Node.token t children).tokens := List.mem_cons_of_mem t below
  obtain ⟨wellCut, within⟩ := Sound.tokens_within _ sound u inside
  have nonempty := wellCut.solid.nonempty
  have disjoint := apart same
  change t.span.contains u.span = true at within
  rw [Span.contains_iff] at within
  rw [Span.disjoint_iff] at disjoint
  omega

theorem Descent.nodup (descent : Descent nodes path) (sound : SoundAll text nodes)
    (apart : (tokensAll nodes).Pairwise Token.ApartInFamily) :
    (path.map (·.type.family)).Nodup := by
  induction descent with
  | stop => exact List.nodup_nil
  | @step nodes path n member below ih =>
      have here := (soundAll_iff text nodes).mp sound n member
      have apart := apart.sublist (tokens_sublist member)
      cases n with
      | text =>
          cases below with
          | stop => exact List.pairwise_singleton _ _
          | step inside => cases inside
      | token t children =>
          obtain ⟨first, later⟩ := List.pairwise_cons.mp apart
          refine List.nodup_cons.mpr ⟨fun again => ?_, ih here.2.1 later⟩
          obtain ⟨m, passed, same⟩ := List.mem_map.mp again
          rcases below.cases_of_mem m passed with leaf | ⟨u, present, typed⟩
          · have known := TokenType.family_mem_ofTokens t.type_ne_text
            have none : t.type.family = .text := same.symm.trans (by rw [leaf, TokenType.family])
            rw [none] at known
            revert known
            decide
          · exact here.family_ne (first u present) present (same.symm.trans (by rw [typed]))

theorem length_le_of_families {families : List Family}
    (nodup : (path.map (·.type.family)).Nodup)
    (known : ∀ n ∈ path, n.type.family ∈ families) : path.length ≤ families.length := by
  have subset : path.map (·.type.family) ⊆ families := by
    intro family member
    obtain ⟨n, passed, rfl⟩ := List.mem_map.mp member
    exact known n passed
  rw [← List.length_map (f := (·.type.family))]
  exact (List.subperm_of_subset nodup subset).length_le

def MeetsOnce (nodes : List Node) : Prop :=
  ∀ path, Descent nodes path → (path.map (·.type.family)).Nodup

theorem MeetsOnce.types (once : MeetsOnce nodes) (descent : Descent nodes path) :
    (path.map (·.type)).Nodup := by
  refine List.Nodup.of_map TokenType.family ?_
  rw [List.map_map]
  exact once path descent

theorem MeetsOnce.lines (once : MeetsOnce nodes) (descent : Descent nodes path) :
    (path.filter (·.type.isLine)).length ≤ 1 := by
  change (path.filter (·.type.isLine)).length ≤ [Family.line].length
  refine length_le_of_families ((once path descent).sublist (path.filter_sublist.map _))
    fun n member => ?_
  exact List.mem_singleton.mpr (TokenType.family_of_isLine (List.mem_filter.mp member).2)

theorem MeetsOnce.depth_le (once : MeetsOnce nodes) : depthAll nodes ≤ 7 :=
  depthAll_le fun path descent =>
    length_le_of_families (once path descent) fun n _ => n.type.family_mem_all

theorem MeetsOnce.depth_bareAll_le (once : MeetsOnce nodes) : depthAll (bareAll nodes) ≤ 6 := by
  refine depthAll_le fun path descent => ?_
  obtain ⟨tokens, below, rfl, types⟩ := descent.of_bareAll
  rw [List.length_map]
  exact length_le_of_families (once tokens below) fun n passed =>
    TokenType.family_mem_ofTokens (types n passed)

theorem exists_tokenize_nest (text : Text) : ∃ ts,
    tokenize text = .ok (fillGaps text.whole (nest ts)) ∧
      SoundAll text (fillGaps text.whole (nest ts)) ∧
      (tokensAll (fillGaps text.whole (nest ts))).Pairwise Token.ApartInFamily := by
  obtain ⟨ts, accepted, _, grown, made⟩ :=
    tokenizeWith_grown markdown Grammar.markdown_lawful text
  obtain ⟨nodes, made', sound, _⟩ := tokenizeWith_sound markdown Grammar.markdown_lawful text
  obtain rfl := Except.ok.inj (made.symm.trans made')
  refine ⟨ts, made, (soundAll_iff ..).mpr sound, ?_⟩
  have symmetric : ∀ {t u}, Token.ApartInFamily t u → Token.ApartInFamily u t :=
    fun apart same => by
      rw [Span.disjoint_comm]
      exact apart same.symm
  rw [tokensAll_fillGaps, grown.tokens, accepted.pairwise_iff symmetric]
  exact Plain.accept_apartInFamily text

structure Bounded (text : Text) (nodes : List Node) : Prop where
  /-- Two tokens of one type have no byte in common. -/
  apart : (tokensAll nodes).Pairwise Token.ApartInType
  /-- No node is below another of its type. -/
  types : ∀ path, Descent nodes path → (path.map (·.type)).Nodup
  /-- No construct of whole lines is below another. -/
  lines : ∀ path, Descent nodes path → (path.filter (·.type.isLine)).length ≤ 1
  depth : depthAll nodes ≤ 7
  /-- The call that fills the text has six others open below it at most. -/
  filled : ((bareAll nodes).mapM (foldWithin .text fillToken 6)).map (fillGaps text.whole) =
    some nodes
  counted : nodes.mapM (foldWithin (fun _ => 1) countToken 7) = some (nodes.map count)
  rendered : nodes.mapM (foldWithin (Markup.escape ·.text) Markup.tokenMarkup 7) =
    some (nodes.map Markup.renderNode)
  painted : nodes.mapM (foldWithin (fun source base => Terminal.paintText base source.text)
    Terminal.tokenPaint 7) = some (nodes.map fun n base => Terminal.paintNode base n)

end Node

/-- Every text has trees, and of seven levels at most. -/
theorem tokenize_bounded (text : Text) :
    ∃ nodes, tokenize text = .ok nodes ∧ Node.Bounded text nodes := by
  obtain ⟨ts, made, sound, apart⟩ := Node.exists_tokenize_nest text
  have once : Node.MeetsOnce (Node.fillGaps text.whole (Node.nest ts)) :=
    fun path descent => descent.nodup sound apart
  have deep : ∀ n ∈ Node.fillGaps text.whole (Node.nest ts), n.depth ≤ 7 :=
    fun n member => (Node.depth_le_depthAll member).trans once.depth_le
  refine ⟨_, made, ?_⟩
  constructor
  case apart => exact apart.imp fun apart same => apart (by rw [same])
  case types => exact fun path => once.types
  case lines => exact fun path => once.lines
  case depth => exact once.depth_le
  case filled => exact (Node.nest_full ts).fill text.whole once.depth_bareAll_le
  case counted => exact Node.mapM_eq_some _ fun n member => Node.count_within (deep n member)
  case rendered =>
    exact Node.mapM_eq_some _ fun n member => Markup.renderNode_within (deep n member)
  case painted =>
    exact Node.mapM_eq_some _ fun n member => Terminal.paintNode_within (deep n member)

/-- All the families in each other: the bound is reached. -/
example : (tokenize "> ~~**_[`a`](b)_**~~".toList).map Node.depthAll = .ok 7 := by
  decide +kernel

end MarkdownHighlight
