import MarkdownHighlight.Document.Viewport

/-!
Settings of an engine and partial changes to them. Whatever is read from a file
or changed later is kept within bounds: a line limit of at least one, and a
delay of at most a minute.
-/

namespace MarkdownHighlight

structure Options where
  /-- Milliseconds between an edit and its pass. -/
  debounceDelay : UInt64 := 300
  /-- Documents with fewer lines are always highlighted as a whole. -/
  lineLimit : UInt64 := 1000
  /-- Lines highlighted beyond each edge of the viewport. -/
  margin : UInt64 := 50
  logPasses : Bool := false
  cacheCapacity : UInt64 := 100
  deriving DecidableEq, Repr

/-- Changes to some settings; what is absent stays as it is. -/
structure OptionsUpdate where
  debounceDelay? : Option UInt64 := none
  lineLimit? : Option UInt64 := none
  margin? : Option UInt64 := none
  logPasses? : Option Bool := none
  deriving DecidableEq, Repr

namespace Options

def standard : Options := {}

def clamped (o : Options) : Options :=
  { o with lineLimit := max o.lineLimit 1, debounceDelay := min o.debounceDelay 60000 }

def narrowing (o : Options) : Narrowing := ⟨o.lineLimit, o.margin⟩

def merge (o : Options) (u : OptionsUpdate) : Options :=
  clamped { o with
    debounceDelay := u.debounceDelay?.getD o.debounceDelay
    lineLimit := u.lineLimit?.getD o.lineLimit
    margin := u.margin?.getD o.margin
    logPasses := u.logPasses?.getD o.logPasses }

end Options

/-- Whether an update changes which lines are selected for highlighting. -/
def OptionsUpdate.affectsNarrowing (u : OptionsUpdate) (o : Options) : Bool :=
  u.lineLimit?.any (max · 1 != o.lineLimit) || u.margin?.any (· != o.margin)

end MarkdownHighlight
