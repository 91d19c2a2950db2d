import Accessors.Text.Run

/-!
# White space

The characters with the Unicode property `White_Space`.
-/

namespace Accessors

def spaceRuns : List Run :=
  [⟨0x9, 0xd, 1⟩, ⟨0x20, 0x20, 1⟩, ⟨0x85, 0x85, 1⟩, ⟨0xa0, 0xa0, 1⟩, ⟨0x1680, 0x1680, 1⟩,
   ⟨0x2000, 0x200a, 1⟩, ⟨0x2028, 0x2029, 1⟩, ⟨0x202f, 0x202f, 1⟩, ⟨0x205f, 0x205f, 1⟩,
   ⟨0x3000, 0x3000, 1⟩]

/-- White space: tab to carriage return, the space, and the spaces outside ASCII. -/
def isSpace (c : Char) : Bool :=
  Run.search spaceRuns c.toNat

/-- A blank is a space or a tab. -/
def isBlank (c : Char) : Bool :=
  c == ' ' || c == '\t'

end Accessors
