import SuffixPattern.Regex.Expr
import SuffixPattern.SortedSet

/-!
# SuffixPattern.Regex.CharSet

The expression for a set of characters: the character itself if there is only one, else a class in
which runs of three or more consecutive code points are written as ranges.
-/

namespace SuffixPattern
namespace Regex

/-- The maximal runs of consecutive code points in an ascending list, each as its two ends. -/
def runs : List Char → List (Char × Char)
  | [] => []
  | c :: rest =>
    match runs rest with
    | [] => [(c, c)]
    | (first, last) :: more =>
      if first.toNat = c.toNat + 1 then (c, last) :: more
      else (c, c) :: (first, last) :: more

/-- A run of one or two is written out. -/
def ClassItem.ofRun (run : Char × Char) : List ClassItem :=
  match run.2.toNat - run.1.toNat with
  | 0 => [.single run.1]
  | 1 => [.single run.1, .single run.2]
  | _ => [.range run.1 run.2]

/-- Neither order nor repetition of the characters matters. -/
def Expr.ofChars (cs : List Char) : Expr :=
  match (SortedSet.ofList cs).toList with
  | [c] => .char c
  | sorted => .set false ((runs sorted).flatMap ClassItem.ofRun)

end Regex
end SuffixPattern
