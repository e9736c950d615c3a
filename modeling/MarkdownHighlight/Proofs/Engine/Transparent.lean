import MarkdownHighlight.Engine.Session
import MarkdownHighlight.Proofs.Cache.Entries
import MarkdownHighlight.Proofs.Document.Total

/-!
The cache cannot be told from rendering afresh. Whatever calls an engine has seen,
an entry of its cache is the markup that the settings now in force give to the
request it was stored for; an update that lets entries stay selects the lines of
every document as before. So each pass writes what a fresh one would.
-/

namespace MarkdownHighlight

section Settings

theorem max_one_of_ne_zero (limit : UInt64) (nonzero : limit ≠ 0) : max limit 1 = limit := by
  change (if limit ≤ 1 then 1 else limit) = limit
  split
  · rename_i small
    apply UInt64.toNat_inj.mp
    have positive : limit.toNat ≠ 0 := fun none => nonzero (UInt64.toNat_inj.mp none)
    have atMostOne : limit.toNat ≤ 1 := UInt64.le_iff_toNat_le.mp small
    have one : (1 : UInt64).toNat = 1 := rfl
    omega
  · rfl

/-- A document has at least one line, so a limit of zero lines is one of one line. -/
theorem Narrowing.select_atLeastOne (n : Narrowing) (lines : List Text)
    (viewport? : Option Viewport) :
    Narrowing.select ⟨max n.lineLimit 1, n.margin⟩ lines viewport? = n.select lines viewport? := by
  cases viewport? with
  | none => rfl
  | some v =>
      by_cases zero : n.lineLimit = 0
      · have least : (max (0 : UInt64) 1).toNat = 1 := by decide
        cases lines with
        | nil => simp [select]
        | cons line later => simp [select, zero, least]
      · rw [max_one_of_ne_zero n.lineLimit zero]

/-- An update that lets the cache stand selects the lines of a document as before,
although it may have raised a limit that it does not mention. -/
theorem Options.select_merge (o : Options) (u : OptionsUpdate)
    (same : u.affectsNarrowing o = false) (lines : List Text) (viewport? : Option Viewport) :
    (o.merge u).narrowing.select lines viewport? = o.narrowing.select lines viewport? := by
  obtain ⟨delay?, limit?, margin?, log?⟩ := u
  rw [OptionsUpdate.affectsNarrowing, Bool.or_eq_false_iff] at same
  obtain ⟨limits, margins⟩ := same
  have margin : margin?.getD o.margin = o.margin := by
    cases margin? with
    | none => rfl
    | some m => simpa using margins
  have limit : max (limit?.getD o.lineLimit) 1 = max o.lineLimit 1 ∨
      max (limit?.getD o.lineLimit) 1 = o.lineLimit := by
    cases limit? with
    | none => exact Or.inl rfl
    | some l => exact Or.inr (by simpa using limits)
  have merged : (o.merge ⟨delay?, limit?, margin?, log?⟩).narrowing =
      ⟨max (limit?.getD o.lineLimit) 1, o.margin⟩ := by
    simp [Options.narrowing, Options.merge, Options.clamped, margin]
  rw [merged]
  rcases limit with raised | kept
  · rw [raised]
    exact o.narrowing.select_atLeastOne lines viewport?
  · rw [kept]
    rfl

theorem Options.renderDocument_merge (o : Options) (u : OptionsUpdate)
    (same : u.affectsNarrowing o = false) (text : Text) (viewport? : Option Viewport) :
    Markup.renderDocument (o.merge u).narrowing text viewport? =
      Markup.renderDocument o.narrowing text viewport? := by
  simp only [Markup.renderDocument, Markup.renderDocumentWith, o.select_merge u same]

end Settings

def Call.request? : Call → Option Request
  | .highlight r => some r
  | .schedule r _ => some r
  | _ => none

/-- Requests that differ in their content or viewport have different keys. -/
def CacheKey.Separates (requests : List Request) : Prop :=
  ∀ a ∈ requests, ∀ b ∈ requests,
    CacheKey.ofRequest a.content a.viewport? = CacheKey.ofRequest b.content b.viewport? →
      a.content = b.content ∧ a.viewport? = b.viewport?

namespace Engine

section Pass

variable {e : Engine} {content markup : Text} {viewport? : Option Viewport}

theorem working_of_accepts (accepted : e.accepts viewport? = .ok ()) : e.destroyed = false := by
  cases gone : e.destroyed with
  | false => rfl
  | true =>
      rw [accepts.eq_def, if_pos gone] at accepted
      cases accepted

theorem runPass_of_hit (found : e.cache.get? (CacheKey.ofRequest content viewport?) = some markup) :
    e.runPass content viewport? = (⟨.cached, .write markup⟩, e.countPass) := by
  simp only [runPass, found]

theorem runPass_of_miss {grammar : List Pattern}
    (absent : e.cache.get? (CacheKey.ofRequest content viewport?) = none)
    (known : e.grammar? = some grammar)
    (rendered : Markup.renderDocumentWith grammar e.options.narrowing content viewport? =
      .ok markup) :
    e.runPass content viewport? = (⟨.rendered, .write markup⟩, { e with
      cache := e.cache.put (CacheKey.ofRequest content viewport?) markup }.countPass) := by
  simp only [runPass, absent, known, rendered]

theorem execute_of_accepts (accepted : e.accepts viewport? = .ok ()) :
    e.execute content viewport? =
      (({ e with rendering := true }.runPass content viewport?).1,
        { ({ e with rendering := true }.runPass content viewport?).2 with rendering := false }) := by
  simp only [execute, accepted]

theorem execute_of_refuses {cause : HighlightError}
    (refuses : e.accepts viewport? = .error cause) :
    e.execute content viewport? = (⟨.skipped, .none⟩, e) := by
  simp only [execute, refuses]

end Pass

/-- What a pass over a request comes to: nothing when the request is refused,
otherwise markup that is rendered under the settings in force. -/
inductive Serves (e : Engine) (r : Request) : Pass → Prop
  | refused (cause : HighlightError) (refuses : e.accepts r.viewport? = .error cause) :
      e.Serves r ⟨.skipped, .none⟩
  | shown (status : PassStatus) (markup : Text) (accepted : e.accepts r.viewport? = .ok ())
      (wrote : status = .rendered ∨ status = .cached)
      (rendered : Markup.renderDocument e.options.narrowing r.content r.viewport? = .ok markup) :
      e.Serves r ⟨status, .write markup⟩

namespace Serves

variable {e e' : Engine} {r : Request} {p p' : Pass}

/-- What a request comes to is settled by the settings and by whether the engine works. -/
theorem transfer (serves : e.Serves r p) (options : e.options = e'.options)
    (destroyed : e.destroyed = e'.destroyed) : e'.Serves r p := by
  have accepts : e.accepts r.viewport? = e'.accepts r.viewport? := by
    simp only [Engine.accepts, destroyed]
  cases serves with
  | refused cause refuses => exact .refused cause (accepts ▸ refuses)
  | shown status markup accepted wrote rendered =>
      exact .shown status markup (accepts ▸ accepted) wrote (options ▸ rendered)

theorem effect_unique (first : e.Serves r p) (second : e.Serves r p') : p.effect = p'.effect := by
  cases first with
  | refused cause refuses =>
      cases second with
      | refused => rfl
      | shown _ _ accepted =>
          rw [accepted] at refuses
          cases refuses
  | shown _ markup accepted _ rendered =>
      cases second with
      | refused _ refuses =>
          rw [refuses] at accepted
          cases accepted
      | shown _ markup' _ _ rendered' =>
          rw [rendered'] at rendered
          cases rendered
          rfl

end Serves

/-- What an engine keeps up, for the requests that it may have seen. -/
structure Faithful (requests : List Request) (e : Engine) : Prop where
  grammar : e.destroyed = false → e.grammar? = some Grammar.markdown
  /-- An entry is the markup that a request would be given now. -/
  cached : ∀ key markup, e.cache.get? key = some markup → ∃ r ∈ requests,
    key = CacheKey.ofRequest r.content r.viewport? ∧
      Markup.renderDocument e.options.narrowing r.content r.viewport? = .ok markup
  waiting : ∀ p, e.scheduler.pending? = some p → p.request ∈ requests

namespace Faithful

variable {requests : List Request} {e : Engine} {r : Request}

theorem create (requests : List Request) (o : Options) : (Engine.create o).Faithful requests where
  grammar := fun _ => rfl
  cached := by
    intro key markup found
    rw [Engine.create, MarkupCache.get?_empty] at found
    cases found
  waiting := nofun

theorem clearCache (faithful : e.Faithful requests) : e.clearCache.Faithful requests where
  grammar := faithful.grammar
  cached := by
    intro key markup found
    rw [Engine.clearCache, MarkupCache.get?_clear] at found
    cases found
  waiting := faithful.waiting

theorem scheduled (faithful : e.Faithful requests) {scheduler : Scheduler}
    (waiting : ∀ p, scheduler.pending? = some p → p.request ∈ requests) :
    Faithful requests { e with scheduler } :=
  ⟨faithful.grammar, faithful.cached, waiting⟩

theorem updateOptions (faithful : e.Faithful requests) (u : OptionsUpdate) :
    (e.updateOptions u).Faithful requests := by
  unfold Engine.updateOptions
  split
  · exact faithful
  · constructor
    · exact faithful.grammar
    · intro key markup found
      simp only at found ⊢
      split at found
      · rw [MarkupCache.get?_clear] at found
        cases found
      · rename_i kept
        obtain ⟨r, member, same, rendered⟩ := faithful.cached key markup found
        refine ⟨r, member, same, ?_⟩
        rw [e.options.renderDocument_merge u (by simpa using kept), rendered]
    · exact faithful.waiting

theorem destroy (faithful : e.Faithful requests) : e.destroy.Faithful requests := by
  unfold Engine.destroy
  split
  · exact faithful
  · constructor
    · nofun
    · intro key markup found
      rw [MarkupCache.get?_clear] at found
      cases found
    · intro p waiting
      unfold Scheduler.cancel at waiting
      split at waiting
      · rename_i none
        rw [none] at waiting
        cases waiting
      · cases waiting

theorem schedule (faithful : e.Faithful requests) (member : r ∈ requests) (now : Nat) :
    (e.schedule r now).2.Faithful requests := by
  unfold Engine.schedule
  split
  · exact faithful.scheduled faithful.waiting
  · apply faithful.scheduled
    intro p waiting
    unfold Scheduler.schedule at waiting
    split at waiting <;> cases waiting <;> exact member

theorem runPass (faithful : e.Faithful requests) (separate : CacheKey.Separates requests)
    (member : r ∈ requests) (accepted : e.accepts r.viewport? = .ok ()) :
    e.Serves r (e.runPass r.content r.viewport?).1 ∧
      (e.runPass r.content r.viewport?).2.Faithful requests := by
  have known := faithful.grammar (working_of_accepts accepted)
  cases found : e.cache.get? (CacheKey.ofRequest r.content r.viewport?) with
  | some markup =>
      obtain ⟨r', member', same, rendered⟩ := faithful.cached _ markup found
      obtain ⟨content, viewport⟩ := separate r member r' member' same
      rw [← content, ← viewport] at rendered
      rw [runPass_of_hit found]
      exact ⟨.shown .cached markup accepted (Or.inr rfl) rendered, faithful.grammar,
        faithful.cached, faithful.waiting⟩
  | none =>
      obtain ⟨markup, rendered⟩ :=
        Markup.renderDocument_ok e.options.narrowing r.content r.viewport?
      rw [runPass_of_miss found known rendered]
      refine ⟨.shown .rendered markup accepted (Or.inl rfl) rendered, ?_⟩
      constructor
      · exact fun _ => known
      · intro key stored found
        rcases MarkupCache.get?_of_put found with ⟨rfl, rfl⟩ | before
        · exact ⟨r, member, rfl, rendered⟩
        · exact faithful.cached key stored before
      · exact faithful.waiting

theorem execute (faithful : e.Faithful requests) (separate : CacheKey.Separates requests)
    (member : r ∈ requests) :
    e.Serves r (e.execute r.content r.viewport?).1 ∧
      (e.execute r.content r.viewport?).2.Faithful requests := by
  cases accepted : e.accepts r.viewport? with
  | error cause =>
      rw [execute_of_refuses accepted]
      exact ⟨.refused cause accepted, faithful⟩
  | ok =>
      -- The mark of a running pass is seen neither by the pass nor by the invariant.
      have running : Faithful requests { e with rendering := true } :=
        ⟨faithful.grammar, faithful.cached, faithful.waiting⟩
      obtain ⟨serves, kept⟩ := running.runPass separate member accepted
      rw [execute_of_accepts accepted]
      refine ⟨?_, kept.grammar, kept.cached, kept.waiting⟩
      exact serves.transfer rfl rfl

theorem deliver (faithful : e.Faithful requests) (separate : CacheKey.Separates requests)
    {taken : Option Pending × Scheduler}
    (known : ∀ p, taken.1 = some p → p.request ∈ requests)
    (waiting : ∀ p, taken.2.pending? = some p → p.request ∈ requests) :
    (e.deliver taken).2.Faithful requests ∧ match taken.1 with
      | none => (e.deliver taken).1 = none
      | some p => ∃ pass, e.Serves p.request pass ∧
          (e.deliver taken).1 = some ⟨p.request.target, pass⟩ := by
  obtain ⟨_ | p, scheduler⟩ := taken
  · exact ⟨faithful.scheduled waiting, rfl⟩
  · obtain ⟨serves, kept⟩ := (faithful.scheduled waiting).execute separate (known p rfl)
    exact ⟨kept.scheduled kept.waiting, _, serves.transfer rfl rfl, rfl⟩

end Faithful

end Engine

namespace TargetStore

/-- One target shows the markup and has counted a write; every other one is as it was. -/
structure Written (before : TargetStore) (name : String) (markup : Text) (after : TargetStore) :
    Prop where
  shown : (after.get name).markup = markup
  visible : (after.get name).hidden = false
  counted : (after.get name).writes = (before.get name).writes + 1
  others : ∀ other, other ≠ name → after.get other = before.get other

theorem written_receive (s : TargetStore) (name : String) (markup : Text) :
    s.Written name markup (s.receive name (.write markup)) := by
  have target : (s.receive name (.write markup)).get name =
      ⟨markup, false, (s.get name).writes + 1⟩ := s.get_update name _
  constructor
  case shown => rw [target]
  case visible => rw [target]
  case counted => rw [target]
  case others => exact fun other differ => s.get_update_of_ne differ _

end TargetStore

def Reply.pass? : Reply → Option PassStatus
  | .status ended => some ended
  | .delivered ended? => ended?
  | _ => none

namespace Session

def served? (s : Session) : Call → Option Request
  | .highlight r => some r
  | .pollAt now => (s.engine.scheduler.takeDue now).1.map (·.request)
  | .flush => s.engine.scheduler.takePending.1.map (·.request)
  | _ => none

structure Answers (requests : List Request) (s : Session) (served? : Option Request)
    (status? : Option PassStatus) (s' : Session) : Prop where
  faithful : s'.engine.Faithful requests
  idle : served? = none → status? = none ∧ s'.targets = s.targets
  serves : ∀ r, served? = some r → r ∈ requests ∧ ∃ pass, s.engine.Serves r pass ∧
    status? = some pass.status ∧ s'.targets = s.targets.receive r.target pass.effect

section Run

variable {requests : List Request} {s : Session}

theorem deliver_answers (faithful : s.engine.Faithful requests)
    (separate : CacheKey.Separates requests) {taken : Option Pending × Scheduler}
    (source : taken = s.engine.scheduler.takePending ∨ taken = (none, s.engine.scheduler)) :
    s.Answers requests (taken.1.map (·.request)) (s.deliver (s.engine.deliver taken)).1
      (s.deliver (s.engine.deliver taken)).2 := by
  have known : ∀ p, taken.1 = some p → p.request ∈ requests := by
    rcases source with rfl | rfl
    · exact faithful.waiting
    · nofun
  have waiting : ∀ p, taken.2.pending? = some p → p.request ∈ requests := by
    rcases source with rfl | rfl
    · nofun
    · exact faithful.waiting
  obtain ⟨kept, came⟩ := faithful.deliver separate known waiting
  obtain ⟨pending?, scheduler⟩ := taken
  generalize s.engine.deliver (pending?, scheduler) = delivered at kept came ⊢
  obtain ⟨delivery?, engine⟩ := delivered
  cases pending? with
  | none =>
      simp only at came
      subst came
      exact ⟨kept, fun _ => ⟨rfl, rfl⟩, nofun⟩
  | some p =>
      obtain ⟨pass, serves, rfl⟩ := came
      refine ⟨kept, nofun, ?_⟩
      rintro r ⟨⟩
      exact ⟨known p rfl, pass, serves, rfl, rfl⟩

theorem perform_answers (faithful : s.engine.Faithful requests)
    (separate : CacheKey.Separates requests) (call : Call)
    (known : ∀ r, call.request? = some r → r ∈ requests) :
    s.Answers requests (s.served? call) (s.perform call).1.pass? (s.perform call).2 := by
  cases call with
  | highlight r =>
      have member := known r rfl
      obtain ⟨serves, kept⟩ := faithful.execute separate member
      refine ⟨kept, nofun, ?_⟩
      rintro r' ⟨⟩
      exact ⟨member, _, serves, rfl, rfl⟩
  | schedule r now => exact ⟨faithful.schedule (known r rfl) now, fun _ => ⟨rfl, rfl⟩, nofun⟩
  | pollAt now => exact deliver_answers faithful separate (s.engine.scheduler.takeDue_cases now)
  | flush => exact deliver_answers faithful separate (Or.inl rfl)
  | update u => exact ⟨faithful.updateOptions u, fun _ => ⟨rfl, rfl⟩, nofun⟩
  | clearCache => exact ⟨faithful.clearCache, fun _ => ⟨rfl, rfl⟩, nofun⟩
  | destroy => exact ⟨faithful.destroy, fun _ => ⟨rfl, rfl⟩, nofun⟩

theorem after_faithful (separate : CacheKey.Separates requests) (calls : List Call)
    (known : ∀ call ∈ calls, ∀ r, call.request? = some r → r ∈ requests)
    (faithful : s.engine.Faithful requests) : (s.after calls).engine.Faithful requests := by
  induction calls generalizing s with
  | nil => exact faithful
  | cons call later ih =>
      obtain ⟨here, there⟩ := List.forall_mem_cons.mp known
      exact ih there (perform_answers faithful separate call here).faithful

end Run

/-- The cache is transparent: in every run of calls on an engine, with whatever
settings it starts, a pass that answers with markup writes what rendering gives
for its request under the settings then in force to the target of the request,
once, and to no other; and every call leaves the targets as it would have with an
empty cache. -/
theorem cache_transparent (o : Options) (before after : List Call) (call : Call)
    (separate : CacheKey.Separates ((before ++ call :: after).filterMap Call.request?)) :
    let s := (create o).after before
    (∀ status, (s.perform call).1.pass? = some status →
        status = .rendered ∨ status = .cached →
        ∃ r ∈ (before ++ [call]).filterMap Call.request?, s.served? call = some r ∧
          ∃ markup, Markup.renderDocument s.engine.options.narrowing r.content r.viewport? =
              .ok markup ∧ s.targets.Written r.target markup (s.perform call).2.targets) ∧
      (s.perform call).2.targets = ((s.perform .clearCache).2.perform call).2.targets := by
  intro s
  have apart : CacheKey.Separates ((before ++ [call]).filterMap Call.request?) := by
    have within : ∀ r ∈ (before ++ [call]).filterMap Call.request?,
        r ∈ (before ++ call :: after).filterMap Call.request? := by
      intro r member
      rw [List.append_cons before call after, List.filterMap_append]
      exact List.mem_append_left _ member
    exact fun a first b second same => separate a (within a first) b (within b second) same
  have known : ∀ c ∈ before ++ [call], ∀ r, c.request? = some r →
      r ∈ (before ++ [call]).filterMap Call.request? := fun c inside r brought =>
    List.mem_filterMap.mpr ⟨c, inside, brought⟩
  have faithful : s.engine.Faithful ((before ++ [call]).filterMap Call.request?) :=
    after_faithful apart before (fun c inside => known c (List.mem_append_left _ inside))
      (.create _ o)
  have here := known call (by simp)
  have answers := perform_answers faithful apart call here
  have fresh := perform_answers (s := (s.perform .clearCache).2) faithful.clearCache apart call here
  have same : (s.perform .clearCache).2.served? call = s.served? call := by
    cases call <;> rfl
  rw [same] at fresh
  cases served : s.served? call with
  | none =>
      obtain ⟨silent, still⟩ := answers.idle served
      refine ⟨fun status ended => ?_, ?_⟩
      · rw [silent] at ended
        cases ended
      · rw [still, (fresh.idle served).2]
        rfl
  | some r =>
      obtain ⟨member, pass, serves, ended, targets⟩ := answers.serves r served
      obtain ⟨_, pass', serves', _, targets'⟩ := fresh.serves r served
      constructor
      · intro status ended' wrote
        rw [ended] at ended'
        cases ended'
        cases serves with
        | refused => simp at wrote
        | shown status markup _ _ rendered =>
            refine ⟨r, member, rfl, markup, rendered, ?_⟩
            rw [targets]
            exact s.targets.written_receive r.target markup
      · rw [targets, targets', serves.effect_unique (serves'.transfer rfl rfl)]
        rfl

theorem cache_transparent_unclamped :
    let o : Options := { lineLimit := 0, margin := 0, cacheCapacity := 1 }
    let r : Request := ⟨"*a*\n<b>".toList, "pane", some ⟨0, 0⟩⟩
    let other : Request := ⟨"*a*\n<b>".toList, "pane", none⟩
    let before : List Call :=
      [.highlight r, .schedule other 0, .update { debounceDelay? := some 5 }]
    CacheKey.Separates ((before ++ [Call.highlight r]).filterMap Call.request?) ∧
      (((create o).after before).perform (.highlight r)).1.pass? = some .cached ∧
      ∃ r' ∈ (before ++ [Call.highlight r]).filterMap Call.request?,
        ((create o).after before).served? (.highlight r) = some r' ∧
        ∃ markup, Markup.renderDocument ((create o).after before).engine.options.narrowing
            r'.content r'.viewport? = .ok markup ∧
          ((create o).after before).targets.Written r'.target markup
            (((create o).after before).perform (.highlight r)).2.targets := by
  intro o r other before
  have separate : CacheKey.Separates ((before ++ [Call.highlight r]).filterMap Call.request?) := by
    unfold CacheKey.Separates
    decide +kernel
  have cached : (((create o).after before).perform (.highlight r)).1.pass? = some .cached := by
    decide +kernel
  have transparent := cache_transparent o before [] (.highlight r) separate
  exact ⟨separate, cached, transparent.1 .cached cached (Or.inr rfl)⟩

end Session

end MarkdownHighlight
