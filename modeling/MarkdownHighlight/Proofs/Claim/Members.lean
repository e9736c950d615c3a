import MarkdownHighlight.Proofs.Claim.Index

/-!
Which claims a query can name. No query and no insertion makes up a claim, and for that an
index need not be in order: what it names it holds, and what it holds after an insertion it
held before or was given.
-/

namespace MarkdownHighlight

namespace SpanTree

variable {Value : Type} {tree : SpanTree Value} {key : Span} {P : Value → Prop}

theorem mem_of_find? {value : Value} (found : tree.find? key = some value) :
    value ∈ tree.toList.map (·.2) := by
  induction tree with
  | leaf => cases found
  | node size left key' value' right ihLeft ihRight =>
      rw [find?] at found
      rw [toList, List.map_append, List.map_cons, List.mem_append, List.mem_cons]
      split at found
      · exact Or.inl (ihLeft found)
      · split at found
        · exact Or.inr (Or.inr (ihRight found))
        · exact Or.inr (Or.inl (Option.some.inj found).symm)

theorem mem_of_latestAt? {place : Nat} {value : Value}
    (found : tree.latestAt? place = some value) : value ∈ tree.toList.map (·.2) := by
  induction tree with
  | leaf => cases found
  | node size left key' value' right ihLeft ihRight =>
      rw [latestAt?] at found
      rw [toList, List.map_append, List.map_cons, List.mem_append, List.mem_cons]
      split at found
      · cases later : right.latestAt? place with
        | none =>
            rw [later] at found
            exact Or.inr (Or.inl (Option.some.inj found).symm)
        | some last =>
            rw [later] at found
            exact Or.inr (Or.inr (ihRight (later.trans found)))
      · exact Or.inl (ihLeft found)

def Each (P : Value → Prop) (tree : SpanTree Value) : Prop := ∀ e ∈ tree.toList, P e.2

section Each

variable {left right : SpanTree Value} {value : Value}

theorem each_node {size : Nat} :
    (node size left key value right).Each P ↔ left.Each P ∧ P value ∧ right.Each P := by
  rw [Each, toList, List.forall_mem_append, List.forall_mem_cons]
  rfl

theorem each_balance :
    (balance left key value right).Each P ↔ left.Each P ∧ P value ∧ right.Each P := by
  rw [Each, toList_balance, List.forall_mem_append, List.forall_mem_cons]
  rfl

theorem Each.insert (each : tree.Each P) (new : P value) : (tree.insert key value).Each P := by
  induction tree with
  | leaf => exact each_node.mpr ⟨each, new, each⟩
  | node size left key' value' right ihLeft ihRight =>
      obtain ⟨before, here, after⟩ := each_node.mp each
      rw [SpanTree.insert]
      split
      · exact each_balance.mpr ⟨ihLeft before, here, after⟩
      · split
        · exact each_balance.mpr ⟨before, here, ihRight after⟩
        · exact each_node.mpr ⟨before, new, after⟩

theorem Each.modify {change : Value → Value} (each : tree.Each P)
    (keeps : ∀ value, P value → P (change value)) : (tree.modify key change).Each P := by
  induction tree with
  | leaf => exact each
  | node size left key' value' right ihLeft ihRight =>
      obtain ⟨before, here, after⟩ := each_node.mp each
      rw [SpanTree.modify]
      split
      · exact each_node.mpr ⟨ihLeft before, here, after⟩
      · split
        · exact each_node.mpr ⟨before, here, ihRight after⟩
        · exact each_node.mpr ⟨before, keeps value' here, after⟩

end Each

end SpanTree

namespace ClaimIndex

variable {index : ClaimIndex}

theorem mem_all_of_chain (bound : Nat) {first? : Option Claim}
    (held : ∀ c, first? = some c → c ∈ index.all) :
    ∀ c ∈ index.chain bound first?, c ∈ index.all := by
  induction bound generalizing first? with
  | zero => exact nofun
  | succ bound ih =>
      cases first? with
      | none => exact nofun
      | some first =>
          refine List.forall_mem_cons.mpr ⟨held first rfl, ih fun c found => ?_⟩
          obtain ⟨span, _, found⟩ := Option.bind_eq_some_iff.mp found
          exact SpanTree.mem_of_find? found

theorem of_mem_covering {place : Nat} {c : Claim} (covering : c ∈ index.covering place) :
    c ∈ index.all ∧ place < c.token.span.stop := by
  obtain ⟨inside, beyond⟩ := List.mem_filter.mp covering
  refine ⟨mem_all_of_chain index.claims.size (fun latest found => ?_) c inside,
    by simpa using beyond⟩
  exact SpanTree.mem_of_latestAt? found

theorem of_codeEnd? {place stop : Nat} (found : index.codeEnd? place = some stop) :
    place < stop ∧ ∃ t ∈ index.tokens, t.span.stop = stop := by
  obtain ⟨c, code, rfl⟩ := List.mem_map.mp (List.max?_mem found)
  obtain ⟨present, beyond⟩ := of_mem_covering (List.mem_filter.mp code).1
  refine ⟨beyond, c.token, ?_, rfl⟩
  rw [tokens_eq]
  exact List.mem_map_of_mem present

theorem each_foldl_modify {P : Token → Prop} (span : Span) (moved : List Claim)
    {tree : SpanTree Claim} (each : tree.Each (P ·.token)) :
    (moved.foldl (fun tree claim =>
      tree.modify claim.token.span ({ · with parent? := some span })) tree).Each (P ·.token) := by
  induction moved generalizing tree with
  | nil => exact each
  | cons c later ih => exact ih (each.modify fun _ known => known)

theorem forall_tokens_insert {P : Token → Prop} {t : Token} (held : ∀ u ∈ index.tokens, P u)
    (new : P t) : ∀ u ∈ (index.insert t).tokens, P u := by
  rw [tokens, List.forall_mem_map] at held ⊢
  rw [insert_eq]
  exact SpanTree.Each.insert (each_foldl_modify t.span _ held) new

end ClaimIndex

end MarkdownHighlight
