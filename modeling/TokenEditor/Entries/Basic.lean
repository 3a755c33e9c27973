/-!
# Entries

A sequence holds a token or nothing at each place. Here are the two ways in which entries become a
text, and the cut and the splice on which all reading and editing rest.
-/

namespace TokenEditor

abbrev Entry := Option String

namespace Entries

def spaced (parts : List String) : String := " ".intercalate parts

/-- The tokens of `entries` with spaces between them; empty places and empty tokens are left out. -/
def render (entries : List Entry) : String :=
  spaced (entries.filterMap fun entry => entry.filter (· ≠ ""))

/-- As `render`, but an empty token is shown and keeps the spaces around it. -/
def preview (entries : List Entry) : String := spaced (entries.filterMap id)

def window (entries : List Entry) (start stop : Nat) : List Entry :=
  (entries.take stop).drop start

/-- `run` in place of the entries from `start` up to `stop`. -/
def splice (entries : List Entry) (start stop : Nat) (run : List String) : List Entry :=
  entries.take start ++ run.map some ++ entries.drop stop

theorem length_splice {entries : List Entry} {start stop : Nat} (run : List String)
    (ordered : start ≤ stop) (within : stop ≤ entries.length) :
    (splice entries start stop run).length + (stop - start) = entries.length + run.length := by
  simp [splice]
  omega

/-- The place of the first entry from `start` on that spells `wanted` once `fold` is applied. -/
def find? (fold : String → String) (wanted : String) (entries : List Entry) (start : Nat) :
    Option Nat :=
  ((entries.drop start).findIdx? fun entry => entry.map fold == some wanted).map (start + ·)

end Entries

end TokenEditor
