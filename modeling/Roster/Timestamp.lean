import Roster.Calendar.Date

namespace Roster

/-- Seconds since 1970-01-01T00:00:00Z and nanoseconds; a thousand million or more nanoseconds
stand inside a leap second that follows. -/
structure Timestamp where
  seconds : Int
  nanos : Nat
  deriving DecidableEq, Repr, Inhabited

namespace Timestamp

def firstSecond : Int := -8334601228800

def lastSecond : Int := 8210266876799

def ofSeconds? (n : Int) : Option Timestamp :=
  if firstSecond ≤ n && n ≤ lastSecond then some ⟨n, 0⟩ else none

def le (a b : Timestamp) : Bool :=
  a.seconds < b.seconds || (a.seconds == b.seconds && a.nanos ≤ b.nanos)

def year2000 : Int := 946684800

/-- The instant in whole microseconds, counted from the year 2000 and cut towards it. -/
def toMicros (t : Timestamp) : Timestamp :=
  let micros := ((t.seconds - year2000) * 1000000000 + t.nanos).tdiv 1000
  ⟨year2000 + micros / 1000000, (micros % 1000000).toNat * 1000⟩

end Timestamp

end Roster
