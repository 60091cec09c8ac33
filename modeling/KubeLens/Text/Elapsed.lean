/-!
# The text of a span of time

Spans are whole milliseconds.  A span is written in the largest of the units seconds,
milliseconds and nanoseconds in which it is at least one, with the shortest exact decimal
fraction.
-/

namespace KubeLens
namespace Text

/-- The digits of `number`, with zeros in front up to `width`. -/
def padLeft (width number : Nat) : List Char :=
  let digits := (toString number).toList
  List.replicate (width - digits.length) '0' ++ digits

/-- The thousandths as a fraction without trailing zeros, and nothing for none. -/
def thousandths (count : Nat) : String :=
  if count = 0 then "" else
    "." ++ String.ofList ((padLeft 3 count).reverse.dropWhile (· == '0')).reverse

/-- The text of a span of `ms` milliseconds. -/
def elapsed (ms : Nat) : String :=
  if ms = 0 then "0ns"
  else if ms < 1000 then toString ms ++ "ms"
  else toString (ms / 1000) ++ thousandths (ms % 1000) ++ "s"

end Text
end KubeLens
