import MarkdownHighlight.Cache.Store
import MarkdownHighlight.Document.Highlight
import MarkdownHighlight.Document.Target
import MarkdownHighlight.Options.Basic
import MarkdownHighlight.Schedule.Scheduler

/-!
The engine of one editor: it debounces requests, looks into the cache, renders
what is missing and counts its passes. No call fails towards the caller; a
refused request changes nothing, and a failed pass empties its target.
-/

namespace MarkdownHighlight

inductive EngineState where
  | idle
  | scheduled
  | rendering
  deriving DecidableEq, Repr

structure Engine where
  options : Options
  /-- Given up when the engine is destroyed. -/
  grammar? : Option (List Pattern)
  cache : MarkupCache
  scheduler : Scheduler
  /-- Passes that wrote markup. -/
  passes : Nat
  /-- Set while a pass runs. -/
  rendering : Bool
  destroyed : Bool

/-- What a pass does to its target. -/
inductive TargetEffect where
  | none
  | write (markup : Text)
  | hideAndClear
  deriving DecidableEq, Repr

def TargetEffect.run {Target : Type} [RenderTarget Target] (effect : TargetEffect) (t : Target) :
    Target :=
  match effect with
  | .none => t
  | .write markup => RenderTarget.write markup t
  | .hideAndClear => RenderTarget.clear (RenderTarget.hide t)

/-- The outcome of a pass and its effect. -/
structure Pass where
  status : PassStatus
  effect : TargetEffect
  deriving DecidableEq, Repr

namespace Engine

def nanosecondsPerMillisecond : Nat := 1000000

def delayOf (o : Options) : Nat := o.debounceDelay.toNat * nanosecondsPerMillisecond

/-- The capacity for the cache is taken to be one for which there is memory. -/
def create (o : Options) : Engine where
  options := o
  grammar? := some Grammar.markdown
  cache := .empty o.cacheCapacity.toNat
  scheduler := .idle (delayOf o)
  passes := 0
  rendering := false
  destroyed := false

def state (e : Engine) : EngineState :=
  if e.rendering then .rendering
  else if e.scheduler.isPending then .scheduled
  else .idle

def deadline? (e : Engine) : Option Nat := e.scheduler.deadline?

def countPass (e : Engine) : Engine := { e with passes := e.passes + 1 }

/-- One pass over a request that was accepted. -/
def runPass (e : Engine) (content : Text) (viewport? : Option Viewport) : Pass × Engine :=
  let key := CacheKey.ofRequest content viewport?
  match e.cache.get? key, e.grammar? with
  | some markup, _ => (⟨.cached, .write markup⟩, e.countPass)
  | none, none => (⟨.skipped, .none⟩, e)
  | none, some grammar =>
      match Markup.renderDocumentWith grammar e.options.narrowing content viewport? with
      | .ok markup =>
          (⟨.rendered, .write markup⟩, { e with cache := e.cache.put key markup }.countPass)
      | .error _ => (⟨.failed, .hideAndClear⟩, e)

/-- A destroyed engine refuses every request, a working one those with an
inverted viewport. -/
def accepts (e : Engine) (viewport? : Option Viewport) : Except HighlightError Unit :=
  if e.destroyed then .error .destroyed
  else match viewport? with
    | none => .ok ()
    | some v => v.validate

def execute (e : Engine) (content : Text) (viewport? : Option Viewport) : Pass × Engine :=
  match e.accepts viewport? with
  | .error _ => (⟨.skipped, .none⟩, e)
  | .ok () =>
      let (pass, e) := { e with rendering := true }.runPass content viewport?
      (pass, { e with rendering := false })

/-- A debounced request. A destroyed engine answers with a handle that is
resolved already. -/
def schedule (e : Engine) (request : Request) (now : Nat) : Handle × Engine :=
  if e.destroyed then
    let (handle, completions) := e.scheduler.completions.issue (some .skipped)
    (handle, { e with scheduler := { e.scheduler with completions } })
  else
    let (handle, scheduler) := e.scheduler.schedule request now
    (handle, { e with scheduler })

/-- Runs a request that was taken from the scheduler and resolves its handle. -/
def runPending (e : Engine) (p : Pending) : Pass × Engine :=
  let (pass, e) := e.execute p.request.content p.request.viewport?
  (pass, { e with scheduler := e.scheduler.resolve p.completion pass.status })

/-- What a scheduled pass did, and to which target. -/
structure Delivery where
  target : String
  pass : Pass
  deriving DecidableEq, Repr

def deliver (e : Engine) : Option Pending × Scheduler → Option Delivery × Engine
  | (none, scheduler) => (none, { e with scheduler })
  | (some p, scheduler) =>
      let (pass, e) := { e with scheduler }.runPending p
      (some ⟨p.request.target, pass⟩, e)

/-- Runs the waiting request if its deadline has come. -/
def pollAt (e : Engine) (now : Nat) : Option Delivery × Engine :=
  e.deliver (e.scheduler.takeDue now)

/-- Runs the waiting request at once. -/
def flush (e : Engine) : Option Delivery × Engine := e.deliver e.scheduler.takePending

/-- Changes the settings. Markup that was cached under another selection of
lines is given up. -/
def updateOptions (e : Engine) (u : OptionsUpdate) : Engine :=
  if e.destroyed then e
  else
    let cache := if u.affectsNarrowing e.options then e.cache.clear else e.cache
    let options := e.options.merge u
    { e with cache, options, scheduler := e.scheduler.setDelay (delayOf options) }

def clearCache (e : Engine) : Engine := { e with cache := e.cache.clear }

/-- Gives up what waits, the grammar and the cache. Later requests are refused. -/
def destroy (e : Engine) : Engine :=
  if e.destroyed then e
  else
    { e with
      scheduler := e.scheduler.cancel.2
      grammar? := none
      cache := e.cache.clear
      destroyed := true }

end Engine

end MarkdownHighlight
