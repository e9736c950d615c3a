import MarkdownHighlight.Options.File
import MarkdownHighlight.Proofs.Toml.Lines

/-!
Saved settings. A file of settings is read line by line as it was written, so loading it
gives the settings back, as far as they are within bounds. Settings with a number beyond
the signed 64-bit limit are not written at all.
-/

namespace MarkdownHighlight.Options

open Toml (Entries Item Line isBareKeyChar)
open Reader (Rounds)

variable (o : Options)

def numbers : List UInt64 := [o.debounceDelay, o.lineLimit, o.margin, o.cacheCapacity]

def entries : Entries :=
  [("debounce-delay".toList, .integer o.debounceDelay.toNat),
    ("max-lines-for-full-highlight".toList, .integer o.lineLimit.toNat),
    ("visible-lines-buffer".toList, .integer o.margin.toNat),
    ("enable-performance-logging".toList, .boolean o.logPasses),
    ("max-cache-size".toList, .integer o.cacheCapacity.toNat)]

def fileLines : List Line :=
  [.blank, .blank, .blank] ++ o.entries.map fun (key, item) => .entry [] key item

section Written

theorem le_fileNumberLimit_iff {n : Nat} : n ≤ fileNumberLimit ↔ n < 2 ^ 63 := by
  have limit : fileNumberLimit = 2 ^ 63 - 1 := by decide
  omega

theorem save_cases :
    ((∃ n ∈ o.numbers, 2 ^ 63 - 1 < n.toNat) ∧ o.save = .error .configWrite) ∨
      ((∀ n ∈ o.numbers, n.toNat < 2 ^ 63) ∧ o.save = .ok o.fileText) := by
  by_cases fits : ∀ n ∈ o.numbers, n.toNat < 2 ^ 63
  · refine Or.inr ⟨fits, if_pos ?_⟩
    rw [List.all_eq_true]
    exact fun n inside => decide_eq_true (le_fileNumberLimit_iff.mpr (fits n inside))
  · refine Or.inl ⟨?_, if_neg fun all => fits fun n inside => ?_⟩
    · obtain ⟨n, fails⟩ := Classical.not_forall.mp fits
      obtain ⟨inside, large⟩ := Classical.not_imp.mp fails
      exact ⟨n, inside, by omega⟩
    · rw [List.all_eq_true] at all
      exact le_fileNumberLimit_iff.mp (of_decide_eq_true (all n inside))

end Written

section Read

variable {t u : Text} {lines : List Line}

theorem rounds_wordLine {key : String} (bare : ∀ ch ∈ key.toList, isBareKeyChar ch = true)
    (named : key.toList ≠ []) {value : UInt64} (fits : value.toNat < 2 ^ 63)
    (rest : Rounds Toml.line t lines u) :
    Rounds Toml.line (wordLine key value ++ t)
      (.entry [] key.toList (.integer value.toNat) :: lines) u := by
  refine .cons (by simp [wordLine]) ?_ rest
  have first := Toml.line_number bare named fits t
  simpa [wordLine] using first

theorem rounds_flagLine {key : String} (bare : ∀ ch ∈ key.toList, isBareKeyChar ch = true)
    (named : key.toList ≠ []) (value : Bool) (rest : Rounds Toml.line t lines u) :
    Rounds Toml.line (flagLine key value ++ t)
      (.entry [] key.toList (.boolean value) :: lines) u := by
  refine .cons (by simp [flagLine, named]) ?_ rest
  have first := Toml.line_boolean bare named value t
  cases value <;> simpa [flagLine] using first

theorem rounds_comment {w : Text} (printable : ∀ ch ∈ w, Toml.isPrintable ch = true)
    (rest : Rounds Toml.line t lines u) :
    Rounds Toml.line ('#' :: (w ++ '\n' :: t)) (.blank :: lines) u := by
  refine .step (Toml.line_comment printable t) ?_ rest
  simp only [List.length_cons, List.length_append]
  omega

theorem rounds_header (rest : Rounds Toml.line t lines u) :
    Rounds Toml.line ("# mdlive configuration\n# Generated automatically\n\n".toList ++ t)
      ([.blank, .blank, .blank] ++ lines) u := by
  have parts : "# mdlive configuration\n# Generated automatically\n\n".toList
      = '#' :: (" mdlive configuration".toList ++ '\n' ::
        '#' :: (" Generated automatically".toList ++ '\n' :: ['\n'])) := by decide
  rw [parts]
  simp only [List.cons_append, List.append_assoc, List.nil_append]
  refine rounds_comment (by decide) (rounds_comment (by decide) ?_)
  exact .step (Toml.line_newline t) (by simp) rest

theorem rounds_fileText (fits : ∀ n ∈ o.numbers, n.toNat < 2 ^ 63) :
    Rounds Toml.line o.fileText o.fileLines [] := by
  simp only [numbers, List.forall_mem_cons] at fits
  obtain ⟨delay, limit, margin, capacity, -⟩ := fits
  unfold fileText
  rw [← List.append_nil (_ ++ wordLine "max-cache-size" _)]
  simp only [List.append_assoc]
  refine rounds_header ?_
  refine rounds_wordLine (by decide) (by decide) delay ?_
  refine rounds_wordLine (by decide) (by decide) limit ?_
  refine rounds_wordLine (by decide) (by decide) margin ?_
  refine rounds_flagLine (by decide) (by decide) o.logPasses ?_
  exact rounds_wordLine (by decide) (by decide) capacity (.stop rfl)

theorem foldlM_fileLines : o.fileLines.foldlM Toml.Draft.add? ⟨[], []⟩ = some ⟨o.entries, []⟩ := rfl

theorem word?_of_find? {entries : Entries} {key : String} {n : UInt64}
    (found : entries.find? key.toList = some (.integer n.toNat)) (fallback : UInt64) :
    word? entries key fallback = some n := by
  simp [word?, found]

theorem flag?_of_find? {entries : Entries} {key : String} {b : Bool}
    (found : entries.find? key.toList = some (.boolean b)) (fallback : Bool) :
    flag? entries key fallback = some b := by
  simp [flag?, found]

theorem ofEntries?_entries : ofEntries? o.entries = some o := by
  unfold ofEntries?
  rw [word?_of_find? (n := o.debounceDelay) rfl, word?_of_find? (n := o.lineLimit) rfl,
    word?_of_find? (n := o.margin) rfl, flag?_of_find? (b := o.logPasses) rfl,
    word?_of_find? (n := o.cacheCapacity) rfl]
  rfl

theorem parse_fileText (fits : ∀ n ∈ o.numbers, n.toNat < 2 ^ 63) :
    parse o.fileText = .ok o.clamped := by
  have unmarked : Toml.withoutMark o.fileText = o.fileText := rfl
  have read := Toml.document_of_rounds (o.rounds_fileText fits)
  have parsed : Toml.parse? o.fileText = some o.entries := by
    simp only [Toml.parse?, unmarked, read, foldlM_fileLines, Option.bind_eq_bind,
      Option.bind_some, Option.pure_def]
  rw [parse, parsed, Option.bind_some, ofEntries?_entries]

end Read

section Saved

theorem clamped_clamped : o.clamped.clamped = o.clamped := by
  have raised : ∀ n : UInt64, max n 1 = if n ≤ 1 then 1 else n := fun _ => rfl
  have lowered : ∀ n : UInt64, min n 60000 = if n ≤ 60000 then n else 60000 := fun _ => rfl
  have limit : max (max o.lineLimit 1) 1 = max o.lineLimit 1 := by grind
  have delay : min (min o.debounceDelay 60000) 60000 = min o.debounceDelay 60000 := by grind
  simp only [clamped, limit, delay]

variable {o} {files : Files} {path : Text}

theorem clamped_of_obtained
    (obtained : (∃ text, parse text = .ok o) ∨ ∃ former update, o = merge former update) :
    o.clamped = o := by
  rcases obtained with ⟨text, read⟩ | ⟨former, update, rfl⟩
  · rw [parse] at read
    split at read
    · obtain rfl := Except.ok.inj read
      exact clamped_clamped _
    · cases read
  · exact clamped_clamped _

theorem write_of_writable (writable : files.writable path = true) (text : Text) :
    (files.write path text).1 = .ok () ∧
      (files.write path text).2.contents? path = some (String.ofList text).toUTF8 ∧
      ∀ other, other ≠ path →
        (files.write path text).2.contents? other = files.contents? other := by
  rw [Files.write, if_pos writable]
  exact ⟨rfl, if_pos rfl, fun other apart => if_neg apart⟩

theorem ofFile_toUTF8 (text : Text) : ofFile (some (String.ofList text).toUTF8) = parse text := by
  have whole : String.fromUTF8? (String.ofList text).toUTF8 = some (String.ofList text) :=
    dif_pos (String.ofList text).isValidUTF8
  rw [ofFile, Option.bind_some, whole]
  exact congrArg parse (String.toList_ofList (l := text))

/-- Settings cannot be saved just when one of their numbers is beyond the signed 64-bit
limit, and then no file changes. Otherwise they can be loaded from the file they were
written to, with the line limit and the delay kept within bounds. So settings that were
read or merged are loaded as they were saved. -/
theorem saved_reloads (o : Options) (files : Files) (path : Text) :
    let saved := o.saveTo files path
    (saved.1 = .error .configWrite ↔ ∃ n ∈ o.numbers, 2 ^ 63 - 1 < n.toNat) ∧
      (saved.1 = .error .configWrite → saved.2 = files) ∧
      (saved.1 ≠ .error .configWrite → files.writable path = true →
        saved.1 = .ok () ∧
          (∀ other, other ≠ path → saved.2.contents? other = files.contents? other) ∧
          loadFrom saved.2 path = .ok { o with
            lineLimit := max o.lineLimit 1
            debounceDelay := min o.debounceDelay 60000 } ∧
          ((∃ text, parse text = .ok o) ∨ (∃ former update, o = merge former update) →
            loadFrom saved.2 path = .ok o)) := by
  intro saved
  rcases o.save_cases with ⟨large, refused⟩ | ⟨fits, written⟩
  · have outcome : saved = (.error .configWrite, files) := by
      simp only [saved, saveTo, refused]
    rw [outcome]
    exact ⟨iff_of_true rfl large, fun _ => rfl, fun other => absurd rfl other⟩
  · have outcome : saved = files.write path o.fileText := by
      simp only [saved, saveTo, written]
    have accepted : saved.1 ≠ .error .configWrite := by
      rw [outcome, Files.write]
      split <;> rintro ⟨⟩
    have small : ¬ ∃ n ∈ o.numbers, 2 ^ 63 - 1 < n.toNat := by
      rintro ⟨n, inside, large⟩
      have bound := fits n inside
      omega
    refine ⟨iff_of_false accepted small, fun refused => absurd refused accepted,
      fun _ writable => ?_⟩
    obtain ⟨done, contents, others⟩ := write_of_writable writable o.fileText
    have loaded : loadFrom saved.2 path = .ok o.clamped := by
      rw [loadFrom, outcome, contents, ofFile_toUTF8, parse_fileText o fits]
    refine ⟨outcome ▸ done, outcome ▸ others, loaded, fun obtained => ?_⟩
    rw [loaded, clamped_of_obtained obtained]

/-- Settings that a change has brought within bounds are saved and loaded. -/
theorem saved_reloads_merged :
    let o := standard.merge { debounceDelay? := some 70000, lineLimit? := some 0 }
    let files : Files := ⟨fun _ => none, fun _ => true⟩
    let saved := o.saveTo files "settings.toml".toList
    (o.debounceDelay = 60000 ∧ o.lineLimit = 1) ∧ saved.1 = .ok () ∧
      loadFrom saved.2 "settings.toml".toList = .ok o := by
  intro o files saved
  obtain ⟨refused, -, kept⟩ := saved_reloads o files "settings.toml".toList
  have small : saved.1 ≠ .error .configWrite := by
    rw [ne_eq, refused]
    decide
  obtain ⟨done, -, -, same⟩ := kept small rfl
  exact ⟨⟨rfl, rfl⟩, done, same (Or.inr ⟨_, _, rfl⟩)⟩

end Saved

end MarkdownHighlight.Options
