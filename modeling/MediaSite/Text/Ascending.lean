namespace MediaSite

/-!
# Ascending lists

A finite set is kept as the ascending list of its members, each of them once.
-/

/-- Put a member into an ascending list, unless it is there. -/
def insertAscending [Ord α] (member : α) : List α → List α
  | [] => [member]
  | first :: rest =>
    match compare member first with
    | .lt => member :: first :: rest
    | .eq => first :: rest
    | .gt => first :: insertAscending member rest

/-- The members of a list in ascending order, each of them once. -/
def ascending [Ord α] (members : List α) : List α :=
  members.foldr insertAscending []

end MediaSite
