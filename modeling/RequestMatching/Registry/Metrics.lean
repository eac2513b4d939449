/-!
# Metrics

What is counted in a registry, and the text in which it is exposed: families in the order of their
names, each with its description and its kind.
-/

namespace RequestMatching

structure Metrics where
  matched : Nat := 0
  unmatched : Nat := 0
  evictions : Nat := 0
  /-- The number of expectations at the last change of it. -/
  expectations : Nat := 0
  deriving DecidableEq

/-- A group of samples under one name: the labels and the value of each. -/
structure MetricFamily where
  name : String
  help : String
  kind : String
  samples : List (String × Nat)

def MetricFamily.text (f : MetricFamily) : String :=
  s!"# HELP {f.name} {f.help}\n# TYPE {f.name} {f.kind}\n" ++
    String.join (f.samples.map fun (labels, value) => s!"{f.name}{labels} {value}\n")

namespace Metrics

def recordLookup (m : Metrics) (found : Bool) : Metrics :=
  if found then { m with matched := m.matched + 1 } else { m with unmatched := m.unmatched + 1 }

def outcome (name : String) : String :=
  "\x7bresult=\"" ++ name ++ "\"\x7d"

def families (m : Metrics) : List MetricFamily :=
  [⟨"mock_matcher_expectations", "Number of expectations currently registered", "gauge",
      [("", m.expectations)]⟩,
   ⟨"mock_matcher_match_attempts_total",
      "Total number of requests matched against the expectation registry", "counter",
      [(outcome "matched", m.matched), (outcome "unmatched", m.unmatched)]⟩,
   ⟨"mock_matcher_store_evictions_total",
      "Total number of expectations evicted from a full store", "counter",
      [("", m.evictions)]⟩]

def text (m : Metrics) : String :=
  String.join (m.families.map MetricFamily.text)

end Metrics
end RequestMatching
