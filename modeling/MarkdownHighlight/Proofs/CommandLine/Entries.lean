import MarkdownHighlight.CommandLine.Arguments

/-!
A command line as entries that may stand in any order. An entry is a flag, an option with the
value it takes, or the file. The arguments of a run fall into entries in one way only, and what
they ask for is told from the entries of each kind: whether there is a flag, the last value of
each option, and the one file. So nothing but the order of the options of one kind counts.
-/

namespace MarkdownHighlight.CommandLine

namespace Flag

def names : Flag → List Text
  | .help => ["--help".toList, "-h".toList]
  | .version => ["--version".toList, "-V".toList]
  | .markup => ["--markup".toList, "-m".toList]
  | .config => ["--config".toList, "-c".toList]
  | .viewport => ["--viewport".toList]

theorem ofText?_of_mem {flag : Flag} {t : Text} (named : t ∈ flag.names) :
    ofText? t = some flag := by
  revert t
  cases flag <;> decide

theorem mem_names_of_ofText? {flag : Flag} {t : Text} (found : ofText? t = some flag) :
    t ∈ flag.names := by
  rw [ofText?] at found
  repeat' split at found
  all_goals cases found <;> simpa only [names, List.mem_cons, List.not_mem_nil, or_false]

theorem dashed {flag : Flag} {t : Text} (named : t ∈ flag.names) : t.head? = some '-' := by
  revert t
  cases flag <;> decide

theorem ofText?_of_plain {t : Text} (plain : t.head? ≠ some '-') : ofText? t = none := by
  cases found : ofText? t with
  | none => rfl
  | some flag => exact absurd (dashed (mem_names_of_ofText? found)) plain

end Flag

inductive Entry where
  | markup (name : Text) (named : name ∈ Flag.markup.names)
  /-- The path may be anything, also the name of an option. -/
  | config (name path : Text) (named : name ∈ Flag.config.names)
  | viewport (name range : Text) (v : Viewport) (named : name ∈ Flag.viewport.names)
      (read : parseViewport? range = some v)
  | file (path : Text) (plain : path.head? ≠ some '-')
  deriving DecidableEq

namespace Entry

def arguments : Entry → List Text
  | .markup name _ => [name]
  | .config name path _ => [name, path]
  | .viewport name range _ _ _ => [name, range]
  | .file path _ => [path]

def flag? : Entry → Option Flag
  | .markup .. => some .markup
  | .config .. => some .config
  | .viewport .. => some .viewport
  | .file .. => none

def config? : Entry → Option Text
  | .config _ path _ => some path
  | _ => none

def viewport? : Entry → Option Viewport
  | .viewport _ _ v _ _ => some v
  | _ => none

def file? : Entry → Option Text
  | .file path _ => some path
  | _ => none

end Entry

def written (entries : List Entry) : List Text := entries.flatMap Entry.arguments

def ofFlag (flag : Flag) (entries : List Entry) : List Entry :=
  entries.filter (·.flag? = some flag)

theorem length_files_around (before after : List Entry) (path : Text)
    (plain : path.head? ≠ some '-') :
    ((before ++ .file path plain :: after).filterMap Entry.file?).length =
      ((before ++ after).filterMap Entry.file?).length + 1 := by
  simp only [List.filterMap_append, List.filterMap_cons, Entry.file?, List.length_append,
    List.length_cons]
  rfl

structure Asks (entries : List Entry) (a : RunArguments) : Prop where
  markup : a.markup = true ↔ ∃ e ∈ entries, e.flag? = some .markup
  config : a.config? = (entries.filterMap Entry.config?).getLast?
  viewport : a.viewport? = (entries.filterMap Entry.viewport?).getLast?
  file : entries.filterMap Entry.file? = [a.file]

section Cutting

theorem Entry.exists_first (e : Entry) :
    ∃ first later, e.arguments = first :: later ∧ Flag.ofText? first = e.flag? := by
  cases e with
  | markup name named => exact ⟨name, [], rfl, Flag.ofText?_of_mem named⟩
  | config name path named => exact ⟨name, [path], rfl, Flag.ofText?_of_mem named⟩
  | viewport name range v named read => exact ⟨name, [range], rfl, Flag.ofText?_of_mem named⟩
  | file path plain => exact ⟨path, [], rfl, Flag.ofText?_of_plain plain⟩

theorem Entry.eq_of_arguments {e e' : Entry} {later later' : List Text}
    (same : e.arguments ++ later = e'.arguments ++ later') : e = e' ∧ later = later' := by
  obtain ⟨first, rest, own, told⟩ := e.exists_first
  obtain ⟨first', rest', own', told'⟩ := e'.exists_first
  have flags : e.flag? = e'.flag? := by
    rw [own, own'] at same
    rw [← told, ← told', (List.cons.inj same).1]
  cases e <;> cases e' <;> cases flags
  case markup.markup.refl =>
    obtain ⟨rfl, rfl⟩ := List.cons.inj same
    exact ⟨rfl, rfl⟩
  case config.config.refl =>
    obtain ⟨rfl, behind⟩ := List.cons.inj same
    obtain ⟨rfl, rfl⟩ := List.cons.inj behind
    exact ⟨rfl, rfl⟩
  case viewport.viewport.refl read _ _ _ _ read' =>
    obtain ⟨rfl, behind⟩ := List.cons.inj same
    obtain ⟨rfl, rfl⟩ := List.cons.inj behind
    obtain rfl := Option.some.inj (read.symm.trans read')
    exact ⟨rfl, rfl⟩
  case file.file.refl =>
    obtain ⟨rfl, rfl⟩ := List.cons.inj same
    exact ⟨rfl, rfl⟩

theorem written_injective {entries entries' : List Entry}
    (same : written entries = written entries') : entries = entries' := by
  induction entries generalizing entries' with
  | nil =>
      cases entries' with
      | nil => rfl
      | cons e' later' =>
          obtain ⟨first, rest, own, _⟩ := e'.exists_first
          rw [written, written, List.flatMap_cons, own] at same
          cases same
  | cons e later ih =>
      cases entries' with
      | nil =>
          obtain ⟨first, rest, own, _⟩ := e.exists_first
          rw [written, written, List.flatMap_cons, own] at same
          cases same
      | cons e' later' =>
          obtain ⟨rfl, behind⟩ := Entry.eq_of_arguments same
          rw [ih behind]

theorem plain_of_positional {s s' : Seen} {argument : Text}
    (read : s.positional argument = .ok s') : argument.head? ≠ some '-' := by
  intro dashed
  rw [Seen.positional, if_pos dashed] at read
  cases read

theorem exists_written {s : Seen} {arguments : List Text} {a : RunArguments}
    (accepted : parseFrom s arguments = .ok (.run a)) :
    ∃ entries, written entries = arguments := by
  fun_induction parseFrom s arguments with
  | case1 => exact ⟨[], rfl⟩
  | case4 s name later found ih =>
      obtain ⟨entries, rfl⟩ := ih accepted
      exact ⟨.markup name (Flag.mem_names_of_ofText? found) :: entries, rfl⟩
  | case6 s name path later found ih =>
      obtain ⟨entries, rfl⟩ := ih accepted
      exact ⟨.config name path (Flag.mem_names_of_ofText? found) :: entries, rfl⟩
  | case9 s name range later found v read ih =>
      obtain ⟨entries, rfl⟩ := ih accepted
      exact ⟨.viewport name range v (Flag.mem_names_of_ofText? found) read :: entries, rfl⟩
  | case11 s path later found s' read ih =>
      obtain ⟨entries, rfl⟩ := ih accepted
      exact ⟨.file path (plain_of_positional read) :: entries, rfl⟩
  | _ => cases accepted

end Cutting

section Reading

variable (s : Seen) (e : Entry) (entries : List Entry) (later : List Text)

def Seen.add (s : Seen) : Entry → Seen
  | .markup .. => { s with markup := true }
  | .config _ path _ => { s with config? := some path }
  | .viewport _ _ v _ _ => { s with viewport? := some v }
  | .file path _ => { s with file? := some path }

def Seen.files (s : Seen) (entries : List Entry) : List Text :=
  s.file?.toList ++ entries.filterMap Entry.file?

theorem Seen.files_cons (single : ¬ (e.file?.isSome ∧ s.file?.isSome)) :
    s.files (e :: entries) = (s.add e).files entries := by
  cases e with
  | file path plain =>
      have none : s.file? = none := by simpa [Entry.file?] using single
      simp [Seen.files, Seen.add, none, Entry.file?]
  | _ => rfl

theorem Seen.two_files (twice : e.file?.isSome ∧ s.file?.isSome) :
    ¬ (s.files (e :: entries)).length ≤ 1 := by
  obtain ⟨path, own⟩ := Option.isSome_iff_exists.mp twice.1
  obtain ⟨other, before⟩ := Option.isSome_iff_exists.mp twice.2
  simp [Seen.files, own, before]

theorem parseFrom_entry :
    parseFrom s (e.arguments ++ later) =
      if e.file?.isSome ∧ s.file?.isSome then .error .secondFile
      else parseFrom (s.add e) later := by
  cases e with
  | markup name named =>
      have found := Flag.ofText?_of_mem named
      simp [Entry.arguments, Entry.file?, parseFrom, found, Seen.add]
  | config name path named =>
      have found := Flag.ofText?_of_mem named
      simp [Entry.arguments, Entry.file?, parseFrom, found, Seen.add]
  | viewport name range v named read =>
      have found := Flag.ofText?_of_mem named
      simp [Entry.arguments, Entry.file?, parseFrom, found, read, Seen.add]
  | file path plain =>
      have found := Flag.ofText?_of_plain plain
      cases other : s.file? with
      | none =>
          simp [Entry.arguments, Entry.file?, parseFrom, found, Seen.positional, plain, other,
            Seen.add]
      | some _ =>
          simp [Entry.arguments, Entry.file?, parseFrom, found, Seen.positional, plain, other]

/-- Entries with at most one file are read one after the other; a second file is refused. -/
theorem parseFrom_written :
    parseFrom s (written entries ++ later) =
      if (s.files entries).length ≤ 1 then parseFrom (entries.foldl Seen.add s) later
      else .error .secondFile := by
  induction entries generalizing s with
  | nil => cases other : s.file? <;> simp [written, Seen.files, other]
  | cons e entries ih =>
      rw [written, List.flatMap_cons, List.append_assoc, parseFrom_entry]
      split
      · rename_i twice
        rw [if_neg (s.two_files e entries twice)]
      · rename_i single
        rw [← written, ih, ← s.files_cons e entries single, List.foldl_cons]

theorem foldl_add {Value : Type} (field : Seen → Option Value) (pick : Entry → Option Value)
    (added : ∀ s e, field (s.add e) = (pick e).or (field s)) :
    field (entries.foldl Seen.add s) = ((entries.filterMap pick).getLast?).or (field s) := by
  induction entries generalizing s with
  | nil => rfl
  | cons e entries ih =>
      rw [List.foldl_cons, ih, added]
      cases picked : pick e with
      | none => simp [picked]
      | some value => simp [picked, List.getLast?_cons]

theorem foldl_add_markup :
    (entries.foldl Seen.add s).markup =
      (s.markup || entries.any (·.flag? = some .markup)) := by
  induction entries generalizing s with
  | nil => simp
  | cons e entries ih =>
      rw [List.foldl_cons, ih]
      cases e <;> simp [Seen.add, Entry.flag?]

end Reading

section Order

variable {entries moved : List Entry} {a : RunArguments}

def Seen.ofEntries (entries : List Entry) : Seen := entries.foldl Seen.add {}

theorem parse_of_few_files (few : (entries.filterMap Entry.file?).length ≤ 1)
    (later : List Text) :
    parse (written entries ++ later) = parseFrom (.ofEntries entries) later :=
  (parseFrom_written {} entries later).trans (if_pos few)

theorem parse_of_two_files (more : 1 < (entries.filterMap Entry.file?).length) :
    parse (written entries) = .error .secondFile := by
  have refused := (parseFrom_written {} entries []).trans (if_neg (Nat.not_le.mpr more))
  rwa [List.append_nil] at refused

theorem config?_ofEntries (entries : List Entry) :
    (Seen.ofEntries entries).config? = (entries.filterMap Entry.config?).getLast? := by
  have last := foldl_add {} entries Seen.config? Entry.config? fun s e => by cases e <;> rfl
  rwa [Option.or_none] at last

theorem viewport?_ofEntries (entries : List Entry) :
    (Seen.ofEntries entries).viewport? = (entries.filterMap Entry.viewport?).getLast? := by
  have last := foldl_add {} entries Seen.viewport? Entry.viewport? fun s e => by cases e <;> rfl
  rwa [Option.or_none] at last

theorem file?_ofEntries (entries : List Entry) :
    (Seen.ofEntries entries).file? = (entries.filterMap Entry.file?).getLast? := by
  have last := foldl_add {} entries Seen.file? Entry.file? fun s e => by cases e <;> rfl
  rwa [Option.or_none] at last

theorem markup_ofEntries (entries : List Entry) :
    (Seen.ofEntries entries).markup = true ↔ ∃ e ∈ entries, e.flag? = some .markup := by
  rw [Seen.ofEntries, foldl_add_markup, Bool.false_or, List.any_eq_true]
  simp only [decide_eq_true_eq]

theorem parse_of_no_file (files : entries.filterMap Entry.file? = []) :
    parse (written entries) = .error .missingFile := by
  rw [← List.append_nil (written entries), parse_of_few_files (by simp [files]), parseFrom,
    Seen.finish, file?_ofEntries, files]
  rfl

theorem parse_of_one_file {file : Text} (files : entries.filterMap Entry.file? = [file]) :
    parse (written entries) = .ok (.run ⟨(Seen.ofEntries entries).markup,
      (Seen.ofEntries entries).config?, (Seen.ofEntries entries).viewport?, file⟩) := by
  rw [← List.append_nil (written entries), parse_of_few_files (by simp [files]), parseFrom,
    Seen.finish, file?_ofEntries, files]
  rfl

theorem Asks.parse (asks : Asks entries a) : parse (written entries) = .ok (.run a) := by
  have marks : (Seen.ofEntries entries).markup = a.markup :=
    Bool.eq_iff_iff.mpr ((markup_ofEntries entries).trans asks.markup.symm)
  rw [parse_of_one_file asks.file, marks, config?_ofEntries, viewport?_ofEntries, ← asks.config,
    ← asks.viewport]

theorem asks_of_parse (accepted : parse (written entries) = .ok (.run a)) : Asks entries a := by
  cases files : entries.filterMap Entry.file? with
  | nil =>
      rw [parse_of_no_file files] at accepted
      cases accepted
  | cons file others =>
      cases others with
      | nil =>
          rw [parse_of_one_file files] at accepted
          cases accepted
          exact ⟨markup_ofEntries entries, config?_ofEntries entries, viewport?_ofEntries entries,
            files⟩
      | cons other more =>
          rw [parse_of_two_files (by simp [files])] at accepted
          cases accepted

theorem filterMap_ofFlag {Value : Type} (flag : Flag) (pick : Entry → Option Value)
    (own : ∀ e, e.flag? ≠ some flag → pick e = none) (entries : List Entry) :
    (ofFlag flag entries).filterMap pick = entries.filterMap pick := by
  rw [ofFlag, List.filterMap_filter]
  congr 1
  funext e
  by_cases flagged : e.flag? = some flag
  · simp [flagged]
  · simp [flagged, own e flagged]

/-- Entries ask for the same in any order that keeps the options of one kind in theirs. -/
theorem Asks.perm (asks : Asks entries a) (order : moved.Perm entries)
    (config : ofFlag .config moved = ofFlag .config entries)
    (viewport : ofFlag .viewport moved = ofFlag .viewport entries) : Asks moved a where
  markup := by simp only [asks.markup, order.mem_iff]
  config := by
    have own : ∀ e : Entry, e.flag? ≠ some .config → e.config? = none := by
      rintro (_ | _ | _ | _) other <;> first | rfl | exact absurd rfl other
    rw [asks.config, ← filterMap_ofFlag .config _ own entries, ← config, filterMap_ofFlag _ _ own]
  viewport := by
    have own : ∀ e : Entry, e.flag? ≠ some .viewport → e.viewport? = none := by
      rintro (_ | _ | _ | _) other <;> first | rfl | exact absurd rfl other
    rw [asks.viewport, ← filterMap_ofFlag .viewport _ own entries, ← viewport,
      filterMap_ofFlag _ _ own]
  file := by
    have files := order.filterMap Entry.file?
    rw [asks.file] at files
    exact List.perm_singleton.mp files

theorem Asks.parse_unfinished (asks : Asks entries a) (name : Text) :
    (name ∈ Flag.config.names → CommandLine.parse (written entries ++ [name]) =
        .error .configWithoutPath) ∧
      (name ∈ Flag.viewport.names → CommandLine.parse (written entries ++ [name]) =
        .error .viewportWithoutRange) := by
  rw [parse_of_few_files (by simp [asks.file])]
  constructor
  · intro named
    simp only [parseFrom, Flag.ofText?_of_mem named]
  · intro named
    simp only [parseFrom, Flag.ofText?_of_mem named]

/-- Arguments that make up a run fall into entries in one way, and the run is what these ask
for. Moved among each other, the options of one kind in their order, the entries make up the
same run; with one more file, without the file or with an option at the end that lacks its
value they make up none. -/
theorem run_kept_by_order (arguments : List Text) (a : RunArguments)
    (accepted : parse arguments = .ok (.run a)) :
    ∃ entries, (∀ others, written others = arguments ↔ others = entries) ∧ Asks entries a ∧
      (∀ moved, moved.Perm entries → ofFlag .config moved = ofFlag .config entries →
        ofFlag .viewport moved = ofFlag .viewport entries →
        parse (written moved) = .ok (.run a)) ∧
      (∀ before after path plain, entries = before ++ after →
        parse (written (before ++ .file path plain :: after)) = .error .secondFile) ∧
      (∀ before after path plain, entries = before ++ .file path plain :: after →
        parse (written (before ++ after)) = .error .missingFile) ∧
      (∀ name ∈ Flag.config.names,
        parse (arguments ++ [name]) = .error .configWithoutPath) ∧
      ∀ name ∈ Flag.viewport.names,
        parse (arguments ++ [name]) = .error .viewportWithoutRange := by
  obtain ⟨entries, rfl⟩ := exists_written accepted
  have asks := asks_of_parse accepted
  refine ⟨entries, fun others => ⟨written_injective, congrArg written⟩, asks, ?_, ?_, ?_,
    fun name => (asks.parse_unfinished name).1, fun name => (asks.parse_unfinished name).2⟩
  · intro moved order config viewport
    exact (asks.perm order config viewport).parse
  · rintro before after path plain rfl
    apply parse_of_two_files
    rw [length_files_around, asks.file]
    exact Nat.lt_succ_self 1
  · rintro before after path plain rfl
    apply parse_of_no_file
    have one := length_files_around before after path plain
    rw [asks.file] at one
    exact List.eq_nil_of_length_eq_zero (Nat.succ.inj one).symm

/-- Names of options are taken as paths, so the flag is the one that stands alone. -/
theorem run_kept_by_order_of_swallowed :
    let arguments := ["-c", "--help", "a.md", "--viewport", " 3:+9", "-m", "--config", "-m"].map
      String.toList
    let moved := ["--viewport", " 3:+9", "-c", "--help", "--config", "-m", "a.md", "-m"].map
      String.toList
    let a : RunArguments := ⟨true, some "-m".toList, some ⟨3, 9⟩, "a.md".toList⟩
    parse arguments = .ok (.run a) ∧ parse moved = .ok (.run a) ∧
      parse (arguments ++ ["b.md".toList]) = .error .secondFile ∧
      parse (arguments ++ ["-c".toList]) = .error .configWithoutPath := by
  intro arguments moved a
  have accepted : parse arguments = .ok (.run a) := by rfl
  obtain ⟨entries, cut, -, order, second, -, unfinished, -⟩ :=
    run_kept_by_order arguments a accepted
  have own : entries = [.config "-c".toList "--help".toList (by decide),
      .file "a.md".toList (by decide),
      .viewport "--viewport".toList " 3:+9".toList ⟨3, 9⟩ (by decide) (by decide),
      .markup "-m".toList (by decide), .config "--config".toList "-m".toList (by decide)] :=
    ((cut _).mp rfl).symm
  subst own
  refine ⟨accepted, ?_, second _ [] "b.md".toList (by decide) (List.append_nil _).symm,
    unfinished "-c".toList (by decide)⟩
  exact order [.viewport "--viewport".toList " 3:+9".toList ⟨3, 9⟩ (by decide) (by decide),
    .config "-c".toList "--help".toList (by decide),
    .config "--config".toList "-m".toList (by decide),
    .file "a.md".toList (by decide), .markup "-m".toList (by decide)] (by decide) (by decide)
    (by decide)

end Order

end MarkdownHighlight.CommandLine
