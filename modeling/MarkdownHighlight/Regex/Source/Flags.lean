import MarkdownHighlight.Text.Basic

/-!
The switches of a regular expression. A switch holds from where it is written
to the end of the group it stands in.
-/

namespace MarkdownHighlight.Regex

structure Flags where
  caseless : Bool := false
  /-- Line ends count for `^` and `$`. -/
  multiLine : Bool := false
  /-- The dot also matches line ends. -/
  dotAll : Bool := false
  /-- Repetitions are as short as possible unless marked. -/
  swapGreed : Bool := false
  /-- Classes range over all characters, not over the ASCII ones only. -/
  unicode : Bool := true
  /-- A carriage return ends a line, too. -/
  crlf : Bool := false
  /-- Blanks and comments between the pieces are skipped. -/
  spaced : Bool := false
  deriving DecidableEq, Repr

namespace Flags

/-- Sets the switch of that letter. -/
def set? (f : Flags) (value : Bool) : Char → Option Flags
  | 'i' => some { f with caseless := value }
  | 'm' => some { f with multiLine := value }
  | 's' => some { f with dotAll := value }
  | 'U' => some { f with swapGreed := value }
  | 'u' => some { f with unicode := value }
  | 'R' => some { f with crlf := value }
  | 'x' => some { f with spaced := value }
  | _ => none

def setAll? (f : Flags) (value : Bool) (letters : Text) : Option Flags :=
  letters.foldlM (set? · value) f

/-- Applies switches such as `im-s`. No letter and no minus sign is written
twice, and something follows the minus sign. -/
def change? (f : Flags) (written : Text) : Option Flags :=
  if written.Nodup ∧ written.getLast? ≠ some '-' then do
    let f ← f.setAll? true (written.takeWhile (· != '-'))
    f.setAll? false ((written.dropWhile (· != '-')).drop 1)
  else none

end Flags

end MarkdownHighlight.Regex
