import RequestMatching.Expectation.Basic
import RequestMatching.Request.Pattern

/-!
# Matchers of expectations

A matcher holds an expectation together with the pattern that was made from its definition. The
pattern is made anew only when the definition changes.
-/

namespace RequestMatching

inductive Origin where
  | api
  | automatedInitialization
  | recorded
  | openapi
  deriving DecidableEq

def Origin.name : Origin → String
  | api => "API"
  | automatedInitialization => "AUTOMATED_INITIALIZATION"
  | recorded => "RECORDED"
  | openapi => "OPENAPI"

structure ExpectationMatcher where
  id : String
  comparator : Comparator
  matchType : JsonMatchType
  expectation : Expectation
  pattern : RequestPattern
  origin : Origin := .api
  active : Bool := true
  /-- Whether a response is being made. -/
  busy : Bool := false

namespace ExpectationMatcher

def ofExpectation (c : Comparator) (matchType : JsonMatchType) (origin : Origin)
    (e : Expectation) : ExpectationMatcher where
  id := e.id
  comparator := c
  matchType := matchType
  expectation := e
  pattern := .ofDefinition matchType e.request
  origin := origin

def precedence (m : ExpectationMatcher) : Precedence :=
  m.expectation.precedence

/-- Replaces the expectation and tells whether it differs from the one before. -/
def update (m : ExpectationMatcher) (e : Expectation) : Bool × ExpectationMatcher :=
  if m.expectation.equal e then (false, m)
  else
    let pattern :=
      if m.expectation.request.equal e.request then m.pattern
      else .ofDefinition m.matchType e.request
    (true, { m with expectation := e, pattern })

def attempt (m : ExpectationMatcher) (r : HttpRequest) (d : Option Diagnostics) : Attempt :=
  m.pattern.attempt m.comparator r d

def accepts (m : ExpectationMatcher) (r : HttpRequest) : Bool :=
  (m.attempt r none).accepted

def matched? (m : ExpectationMatcher) (r : HttpRequest) (d : Option Diagnostics) :
    Option Expectation :=
  if (m.attempt r d).accepted then some m.expectation else none

end ExpectationMatcher
end RequestMatching
