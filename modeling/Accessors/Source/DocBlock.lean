import Accessors.Text.Basic

/-!
# The doc block above a line

The block is looked for upwards, so the lines above are given nearest first. Only blank lines
may stand between a block and what it documents.
-/

namespace Accessors

namespace DocBlock

/-- A line as it enters the block: without carriage returns at its end. -/
def clean (line : Text) : Text :=
  Text.dropTrailing (· == '\r') line

def opener : Text := "/**"

def closer : Text := "*/"

/-- A trimmed line that holds a whole block: opener and closer do not overlap, and something
stands between them. -/
def isWhole (line : Text) : Bool :=
  decide (5 < Text.byteLength line) && opener.isPrefixOf line && Text.endsIn closer line

/-- Climbs to the line that opens the block. `below` holds the lines of the block seen so far in
source order; a second closer on the way starts the block anew. -/
def climb (below : List Text) : List Text → Option Text
  | [] => none
  | line :: above =>
    let t := Text.trim line
    if t = closer then climb [] above
    else if t = [] then climb below above
    else if opener.isPrefixOf t then
      let block := if t = opener then below else clean line :: below
      if block.isEmpty then none else some (Text.joinWith ['\n'] block)
    else if t.head? = some '*' then climb (clean line :: below) above
    else none

/-- The text of the block that ends right above, apart from blank lines. -/
def above? : List Text → Option Text
  | [] => none
  | line :: above =>
    let t := Text.trim line
    if t = [] then above? above
    else if t = closer then climb [] above
    else if isWhole t then some (clean line)
    else none

/-- The block that ends right above the place after the first `offset` bytes; `none` if there is no
such place. -/
def before? (source : Text) (offset : Nat) : Option (Option Text) :=
  (Text.cutAtByte? offset source).map fun cut => above? (Text.lines cut.1).reverse

end DocBlock

end Accessors
