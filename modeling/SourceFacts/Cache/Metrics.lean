import SourceFacts.Cache.Failure
import SourceFacts.Json.Value
import SourceFacts.Number.Double

namespace SourceFacts.Cache

/-!
# Metrics of a cache
-/

open Number

/-- How often what came of using a cache. -/
structure Metrics where
  hits : Nat := 0
  misses : Nat := 0
  /-- The misses where there was an entry that is no longer fresh. -/
  expired : Nat := 0
  writes : Nat := 0
  /-- The misses where there was something that is no entry. -/
  corrupted : Nat := 0
deriving Repr, DecidableEq, Inhabited

namespace Metrics

/-- The hits as a part of all uses, zero if there were none. -/
def hitRate (metrics : Metrics) : Double :=
  (do
    let hits ← Double.ofNat? metrics.hits
    let uses ← Double.ofNat? (metrics.hits + metrics.misses)
    hits.div? uses : Option Double).getD (.zero false)

/-- The names under which metrics are collected, in order. -/
def names : List String :=
  ["cache_gate_corrupted_total", "cache_gate_expired_total", "cache_gate_hits_total",
    "cache_gate_misses_total", "cache_gate_writes_total"]

/-- Metrics as a record. -/
def toFields (metrics : Metrics) : List (String × Json) := [
  ("hits", .natural metrics.hits),
  ("misses", .natural metrics.misses),
  ("expired", .natural metrics.expired),
  ("writes", .natural metrics.writes),
  ("corrupted", .natural metrics.corrupted),
  ("hit_rate", .double metrics.hitRate)]

end Metrics

/-- The names under which something is collected already. -/
abbrev Registry := List String

/-- Takes the names of the metrics of a cache, which only one cache can do. -/
def Registry.registerCache (registry : Registry) : Except Failure Registry :=
  if Metrics.names.any registry.contains then .error .metricsTaken
  else .ok (registry ++ Metrics.names)

end SourceFacts.Cache
