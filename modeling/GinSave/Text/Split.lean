/-!
Cutting a text at a separator. Occurrences are found left to right and do not overlap; the
pieces are what lies between them, so there is always one piece more than occurrences cut.
-/

namespace GinSave.Text

/-- Cuts `s` at the first `limit` occurrences of the non-empty `sep`; `acc` gathers the piece
being read, reversed. -/
def splitAux (sep : List Char) (limit : Nat) (s acc : List Char) : List (List Char) :=
  match s with
  | [] => [acc.reverse]
  | c :: rest =>
    if limit > 0 && !sep.isEmpty && sep.isPrefixOf (c :: rest) then
      acc.reverse :: splitAux sep (limit - 1) (rest.drop (sep.length - 1)) []
    else splitAux sep limit rest (c :: acc)
termination_by s.length
decreasing_by
  all_goals simp only [List.length_drop, List.length_cons]; omega

/-- The pieces of `s` between the occurrences of `sep`. -/
def splitOn (s sep : String) : List String :=
  (splitAux sep.toList s.length s.toList []).map String.ofList

/-- The pieces of `s` between its first `limit` occurrences of `sep`; the last piece keeps the
rest, further occurrences included. -/
def splitOnAtMost (s sep : String) (limit : Nat) : List String :=
  (splitAux sep.toList limit s.toList []).map String.ofList

end GinSave.Text
