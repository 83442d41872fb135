/-!
# Tables of code-point ranges

A property of characters is stored as its maximal runs of code points. The runs
of a table are disjoint and stand in increasing order, so membership is decided
by halving a window of the table.
-/
namespace DeviceRegex.Unicode

/-- Inclusive runs of code points, disjoint and in increasing order. -/
structure RangeTable where
  ranges : Array (Nat × Nat)

namespace RangeTable

/-- Look for the run that holds `n` among the entries `lo`, …, `hi - 1`. A middle
run that starts beyond `n` rules out itself and all later ones; one that ends
before `n` rules out itself and all earlier ones. -/
def search (t : RangeTable) (n lo hi : Nat) : Bool :=
  if lo < hi then
    match t.ranges[(lo + hi) / 2]? with
    | none => false
    | some (first, last) =>
      if n < first then t.search n lo ((lo + hi) / 2)
      else if last < n then t.search n ((lo + hi) / 2 + 1) hi
      else true
  else false
termination_by hi - lo
decreasing_by all_goals omega

/-- Some run of the table holds the code point `n`. -/
def contains (t : RangeTable) (n : Nat) : Bool := t.search n 0 t.ranges.size

end RangeTable
end DeviceRegex.Unicode
