import MarkdownHighlight.Engine.Basic

/-!
An engine together with the targets it writes to, and runs of calls on them.
-/

namespace MarkdownHighlight

structure Session where
  engine : Engine
  targets : TargetStore

/-- A call on an engine, with the target it is meant for and the clock reading
it takes. -/
inductive Call where
  | highlight (request : Request)
  | schedule (request : Request) (now : Nat)
  | pollAt (now : Nat)
  | flush
  | update (change : OptionsUpdate)
  | clearCache
  | destroy
  deriving DecidableEq, Repr

inductive Reply where
  | status (status : PassStatus)
  | handle (handle : Handle)
  | delivered (status? : Option PassStatus)
  | done
  deriving DecidableEq, Repr

/-- Lets a target see the effect of a pass. -/
def TargetStore.receive (s : TargetStore) (name : String) (effect : TargetEffect) : TargetStore :=
  match effect with
  | .none => s
  | effect => s.update name effect.run

namespace Session

def create (o : Options) : Session := ⟨.create o, .empty⟩

def highlight (s : Session) (r : Request) : PassStatus × Session :=
  let (pass, engine) := s.engine.execute r.content r.viewport?
  (pass.status, ⟨engine, s.targets.receive r.target pass.effect⟩)

def schedule (s : Session) (r : Request) (now : Nat) : Handle × Session :=
  let (handle, engine) := s.engine.schedule r now
  (handle, { s with engine })

def deliver (s : Session) : Option Engine.Delivery × Engine → Option PassStatus × Session
  | (none, engine) => (none, { s with engine })
  | (some d, engine) =>
      (some d.pass.status, ⟨engine, s.targets.receive d.target d.pass.effect⟩)

def pollAt (s : Session) (now : Nat) : Option PassStatus × Session :=
  s.deliver (s.engine.pollAt now)

def flush (s : Session) : Option PassStatus × Session := s.deliver s.engine.flush

def perform (s : Session) : Call → Reply × Session
  | .highlight r => (s.highlight r).map .status id
  | .schedule r now => (s.schedule r now).map .handle id
  | .pollAt now => (s.pollAt now).map .delivered id
  | .flush => s.flush.map .delivered id
  | .update u => (.done, { s with engine := s.engine.updateOptions u })
  | .clearCache => (.done, { s with engine := s.engine.clearCache })
  | .destroy => (.done, { s with engine := s.engine.destroy })

/-- The session after a list of calls. -/
def after (s : Session) (calls : List Call) : Session :=
  calls.foldl (fun s call => (s.perform call).2) s

end Session

end MarkdownHighlight
