namespace SerialLink

/-- A span of time.  Whole milliseconds are the unit of the virtual clock; nothing finer is told
apart. -/
structure Duration where
  milliseconds : Nat
deriving DecidableEq, Repr

namespace Duration

def ofSeconds (seconds : Nat) : Duration := ⟨1000 * seconds⟩

def seconds (duration : Duration) : Nat := duration.milliseconds / 1000

def fraction (duration : Duration) : Nat := duration.milliseconds % 1000

/-- Three decimal places, without the zeros at the end; nothing for zero. -/
def decimals (fraction : Nat) : String :=
  if fraction = 0 then ""
  else if fraction % 100 = 0 then s!".{fraction / 100}"
  else if fraction % 10 = 0 then s!".{fraction / 100}{fraction / 10 % 10}"
  else s!".{fraction / 100}{fraction / 10 % 10}{fraction % 10}"

/-- Seconds from one second up, else milliseconds; nothing at all is shown in nanoseconds. -/
def describe (duration : Duration) : String :=
  if 1000 ≤ duration.milliseconds then
    s!"{duration.seconds}" ++ decimals duration.fraction ++ "s"
  else if duration.milliseconds = 0 then "0ns"
  else s!"{duration.milliseconds}ms"

end Duration

end SerialLink
