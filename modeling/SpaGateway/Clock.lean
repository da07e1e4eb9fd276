/-!
# The clock

Times are milliseconds of one clock, which has run for a while when the gateway starts. The clock
counts its seconds in 63 bits, so a sum of a time and a configured interval can lie beyond what it
can show. Whoever has to compute such a time comes to no result.
-/

namespace SpaGateway

/-- The first time that is out of reach: the clock counts seconds in 63 bits. -/
def clockEnd : Nat := (1 <<< 63) * 1000

/-- How long the clock has run when something starts of which nothing else is said. -/
def defaultUptime : Nat := 3600000

end SpaGateway
