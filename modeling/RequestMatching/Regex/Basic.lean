import RequestMatching.Number.Power
import RequestMatching.Regex.CharSet

/-!
# Regular expressions

The expressions themselves, and the sets of places of a text that they lead to. A set of places is
a number whose bit `i` stands for the place before character `i`; so the places that an expression
leads to are found for all starting places at once.
-/

namespace RequestMatching

inductive Look where
  | textStart
  | textEnd
  /-- After a line feed; with `crlf` also after a carriage return, but not inside the pair. -/
  | lineStart (crlf : Bool)
  | lineEnd (crlf : Bool)
  /-- The characters on the two sides, as being of a word or not, satisfy the condition. -/
  | word (ascii : Bool) (holds : Bool → Bool → Bool)

inductive Regex where
  | empty
  | char (set : Regex.CharSet)
  | look (condition : Look)
  | cat (first second : Regex)
  | alt (left right : Regex)
  /-- At least `min` and at most `max` times, `none` being without bound. -/
  | rep (body : Regex) (min : Nat) (max : Option Nat)

namespace Look

def holdsBetween : Look → Option Char → Option Char → Bool
  | textStart, before, _ => before.isNone
  | textEnd, _, after => after.isNone
  | lineStart false, before, _ => before.all (· = '\n')
  | lineStart true, before, after =>
    before.all fun c => c = '\n' || (c = '\r' && after != some '\n')
  | lineEnd false, _, after => after.all (· = '\n')
  | lineEnd true, before, after =>
    after.all fun c => c = '\r' || (c = '\n' && before != some '\r')
  | word ascii holds, before, after =>
    let set := if ascii then Regex.CharSet.asciiWord else Regex.CharSet.word
    holds (before.any fun c => set.contains c.toNat) (after.any fun c => set.contains c.toNat)

end Look

namespace Regex

/-! ## Sets of places -/

def placesOf (c : Char) : List Char → Nat
  | [] => 0
  | d :: ds => (if d = c then 1 else 0) + 2 * placesOf c ds

structure Subject where
  text : List Char
  index : List (Char × Nat)

def indexedPlaces (p : Char → Bool) : List (Char × Nat) → Nat
  | [] => 0
  | (c, places) :: rest =>
    if p c then places ||| indexedPlaces p rest else indexedPlaces p rest

namespace Subject

def ofText (text : List Char) : Subject :=
  ⟨text, text.eraseDups.map fun c => (c, placesOf c text)⟩

def charPlaces (s : Subject) (p : Char → Bool) : Nat :=
  indexedPlaces p s.index

end Subject

/-- The places between two characters that satisfy `p`, the first argument being the character
before the text. -/
def gapPlaces (p : Option Char → Option Char → Bool) : Option Char → List Char → Nat
  | before, [] => if p before none then 1 else 0
  | before, c :: cs => (if p before (some c) then 1 else 0) + 2 * gapPlaces p (some c) cs

def allPlaces (text : List Char) : Nat :=
  twoTo (text.length + 1) - 1

def iterate (step : Nat → Nat) : Nat → Nat → Nat
  | 0, s => s
  | n + 1, s => if s = 0 then 0 else iterate step n (step s)

/-- The places in `seen` and those reached from `frontier` in at most `n` further steps. -/
def reach (step : Nat → Nat) : Nat → Nat → Nat → Nat
  | 0, seen, _ => seen
  | n + 1, seen, frontier =>
    let next := step frontier
    let fresh := (seen ||| next) ^^^ seen
    if fresh = 0 then seen else reach step n (seen ||| next) fresh

/-- The places where a match ends that starts at one of the places `starts`. -/
def ends (s : Subject) : Regex → Nat → Nat
  | empty, starts => starts
  | char set, starts => (starts &&& s.charPlaces fun c => set.contains c.toNat) <<< 1
  | look condition, starts => starts &&& gapPlaces condition.holdsBetween none s.text
  | cat first second, starts => ends s second (ends s first starts)
  | alt left right, starts => ends s left starts ||| ends s right starts
  | rep body min max, starts =>
    let least := iterate (ends s body) min starts
    let more := match max with
      | none => s.text.length + 1
      | some m => Nat.min (m - min) (s.text.length + 1)
    reach (ends s body) more least least

def isMatch (r : Regex) (text : String) : Bool :=
  r.ends (.ofText text.toList) (allPlaces text.toList) != 0

end Regex
end RequestMatching
