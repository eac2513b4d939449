/-!
# Groups

Values under keys, where the keys are in the order in which they first had a value and the values of
a key are in the order of their addition.
-/

namespace RequestMatching

abbrev Groups (K V : Type) := List (K × List V)

namespace Groups

variable {K V : Type} [DecidableEq K]

/-- Adds a value to the group of a key, which is opened at the end if there is none. -/
def add (key : K) (value : V) : Groups K V → Groups K V
  | [] => [(key, [value])]
  | (k, values) :: rest =>
    if k = key then (k, values ++ [value]) :: rest else (k, values) :: add key value rest

def ofPairs (pairs : List (K × V)) : Groups K V :=
  pairs.foldl (fun groups (k, v) => add k v groups) []

def valuesOf (groups : Groups K V) (key : K) : List V :=
  (groups.lookup key).getD []

end Groups
end RequestMatching
