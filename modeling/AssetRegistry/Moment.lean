import AssetRegistry.Calendar.Reading
import AssetRegistry.Json.Codec

/-! # Moments

The times that a registry stores: instants that it was given, and readings of its
own clock.  The clock is logical.  It counts the operations since the registry was
set up, which is what a reading shows, and the writes, which order readings within
one operation too. -/

namespace AssetRegistry

open Calendar

/-- A stored time. -/
inductive Moment where
  | instant (value : Instant)
  | reading (operation writes : Nat)
  deriving DecidableEq, Repr

namespace Moment

/-- The text that places every reading of the clock among the instants.  Instants
    sort by their own texts. -/
def present : String :=
  "2026-01-01T00:00:00+00:00"

/-- The text that a moment sorts by. -/
def sortText : Moment → String
  | .instant i => i.sortText
  | .reading _ _ => present

/-- What orders moments of one sort text: the writes before a reading. -/
def serial : Moment → Nat
  | .instant _ => 0
  | .reading _ writes => writes

/-- Whether a moment sorts before another one. -/
def before (a b : Moment) : Bool :=
  a.sortText < b.sortText || (a.sortText == b.sortText && a.serial < b.serial)

/-- The text of a moment: an instant, or the letter `t` and an operation number. -/
def text : Moment → String
  | .instant i => i.text
  | .reading operation _ => "t" ++ toString operation

/-- Moments are written as texts.  Those that are read are instants, in the
    lenient reading. -/
def codec : Json.Codec Moment :=
  .spelled (fun s => (lenient? s.toList).map .instant) text

/-- The instant at which the count of seconds starts that clocks commonly keep. -/
def epoch : Moment :=
  .instant ⟨⟨1970, 1, 1⟩, ⟨0, 0, 0, 0⟩⟩

end Moment

end AssetRegistry
