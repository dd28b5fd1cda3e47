/-!
# Instants and spans

An instant is the number of nanoseconds since the beginning of 1970, a span is a number of
nanoseconds; both may be negative.
-/

namespace Acquisition

/-- A point in time. -/
abbrev Instant := Int

/-- A difference of two points in time. -/
abbrev Span := Int

namespace Span

/-- A span of milliseconds. -/
def ofMillis (n : Int) : Span := n * 1000000

/-- A span of seconds. -/
def ofSeconds (n : Int) : Span := n * 1000000000

/-- A span of minutes. -/
def ofMinutes (n : Int) : Span := n * 60000000000

/-- A span of hours. -/
def ofHours (n : Int) : Span := n * 3600000000000

/-- A span of days. -/
def ofDays (n : Int) : Span := n * 86400000000000

/-- The whole minutes of a span, rounded toward zero. -/
def wholeMinutes (s : Span) : Int := Int.tdiv s 60000000000

/-- The whole milliseconds of a span, rounded down. -/
def wholeMillis (s : Span) : Int := Int.fdiv s 1000000

end Span

end Acquisition
