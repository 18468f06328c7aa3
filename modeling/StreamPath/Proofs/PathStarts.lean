/-
How paths start. A path that is read from a text starts at the document root or with a step that no
slash precedes, also where it stands in parentheses and is prolonged by further steps. So the first
step of a path can follow a double slash only if the path is absolute. Only the outermost form of an
expression matters.
-/

import StreamPath.Proofs.Grammar

namespace StreamPath

/-- Whether a path that begins with a step, or each such path of a union, begins with a step that no
double slash precedes. -/
def Expr.startsBare : Expr → Bool
  | union left right => left.startsBare && right.startsBare
  | path none false steps => steps.head?.any fun first => !first.descendant
  | _ => true

/-- Further steps change nothing about the first one. -/
theorem Grammar.startsBare_followedBy {start : Expr} (bare : start.startsBare = true)
    (steps : List (Step Expr)) : (followedBy start steps).startsBare = true := by
  unfold followedBy
  split
  · exact bare
  · split
    · next origin absolute before =>
      cases origin with
      | some origin => rfl
      | none =>
        cases absolute with
        | true => rfl
        | false =>
          cases before with
          | nil => cases bare
          | cons first rest => exact bare
    · rfl

theorem Grammar.keeps_startsBare : Keeps fun expr => expr.startsBare = true where
  literal _ := rfl
  number _ := rfl
  reference _ := rfl
  empty := rfl
  sequence _ := rfl
  call _ _ _ := rfl
  filter _ _ := rfl
  path {absolute steps} _ begins := by
    cases absolute with
    | true => rfl
    | false =>
      obtain root | ⟨first, rest, rfl, bare⟩ := begins
      · cases root
      · show (!first.descendant) = true
        rw [bare]
        rfl
  followedBy bare _ := startsBare_followedBy bare _
  union left right := Bool.and_eq_true_iff.mpr ⟨left, right⟩
  signed _ _ _ := rfl
  binary _ _ _ _ _ := rfl

/-- In what is read from a text a double slash precedes the first step of a path only where the path
starts at the document root. -/
theorem Expr.startsBare_of_read {text : String} {location : Location} {expr : Expr}
    (reads : Expr.read text location = .ok expr) : expr.startsBare = true :=
  of_read Grammar.keeps_startsBare reads

end StreamPath
