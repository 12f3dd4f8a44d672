import PodNetwork.Text.Utf8

/-! The end of what a program wrote.

Long commands write more than an error report can hold, and not always text. While a stream is
read to its end, its last lines are kept, and every further one takes the place of the oldest. -/
namespace PodNetwork.Host

def newline : UInt8 := 0x0A

/-- The text of a line, without the newlines and carriage returns that end it. -/
def lineText (line : Bytes) : String :=
  let ends (c : Char) : Bool := c == '\n' || c == '\r'
  .ofList (((Bytes.decodeFrom none line).reverse.dropWhile ends).reverse)

def tailLength : Nat := 200

/-- A stream that is being read: the bytes of the line under way, the last one first, and the lines
that are kept. -/
structure Reading where
  line : Bytes := []
  kept : List String := []
  deriving DecidableEq, Repr, Inhabited

namespace Reading

/-- Keeps the line under way, and drops the oldest one for it if there is no room. -/
def keep (reading : Reading) : Reading :=
  let kept := if reading.kept.length = tailLength then reading.kept.drop 1 else reading.kept
  { kept := kept ++ [lineText reading.line.reverse] }

def next (reading : Reading) (b : UInt8) : Reading :=
  let reading := { reading with line := b :: reading.line }
  if b = newline then reading.keep else reading

/-- The lines kept when the stream is at its end, where a line may be left that nothing ends. -/
def finish (reading : Reading) : List String :=
  if reading.line = [] then reading.kept else reading.keep.kept

end Reading

def streamTail (stream : Bytes) : List String := (stream.foldl Reading.next {}).finish

end PodNetwork.Host
