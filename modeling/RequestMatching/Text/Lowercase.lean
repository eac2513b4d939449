import RequestMatching.Text.CaseTable
import RequestMatching.Text.Property

/-!
# Lower case

The full lower-case form of a text. Two rules go beyond single characters: a capital I with a dot
gains a combining dot, and a capital sigma at the end of a word becomes the final sigma.
-/

namespace RequestMatching

def lowerChar (c : Char) : List Char :=
  if c = '\u0130' then ['i', '\u0307']
  else [Char.ofNat (CaseRun.shifted CaseRun.lowercase c.toNat)]

namespace Text

def casedNext (cs : List Char) : Bool :=
  match cs.dropWhile (fun c => Property.caseIgnorable.holds c.toNat) with
  | c :: _ => Property.cased.holds c.toNat
  | [] => false

/-- Lower case of the characters after `before`, which is in reading order from the nearest. -/
def lowerFrom (before : List Char) : List Char → List Char
  | [] => []
  | c :: cs =>
    let lowered :=
      if c = 'Σ' then (if casedNext before && !casedNext cs then ['ς'] else ['σ'])
      else lowerChar c
    lowered ++ lowerFrom (c :: before) cs

def lowercase (s : String) : String :=
  .ofList (lowerFrom [] s.toList)

end Text
end RequestMatching
