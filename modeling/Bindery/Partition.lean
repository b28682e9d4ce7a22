/-!
Outcomes taken apart: what succeeded and what failed, each in its order.
-/

namespace Bindery

/-- The results and the errors among some outcomes. -/
def partition {ε α : Type} : List (Except ε α) → List α × List ε
  | [] => ([], [])
  | .ok a :: rest => (a :: (partition rest).1, (partition rest).2)
  | .error e :: rest => ((partition rest).1, e :: (partition rest).2)

/-- Nothing is lost: there are as many results and errors as outcomes. -/
theorem length_partition {ε α : Type} : ∀ os : List (Except ε α),
    (partition os).1.length + (partition os).2.length = os.length
  | [] => rfl
  | .ok a :: rest => by
    have ih := length_partition rest
    simp only [partition, List.length_cons]
    omega
  | .error e :: rest => by
    have ih := length_partition rest
    simp only [partition, List.length_cons]
    omega

theorem partition_append {ε α : Type} (os ps : List (Except ε α)) :
    partition (os ++ ps) =
      ((partition os).1 ++ (partition ps).1, (partition os).2 ++ (partition ps).2) := by
  induction os with
  | nil => rfl
  | cons o os ih =>
    cases o with
    | ok a => simp [partition, ih]
    | error e => simp [partition, ih]

end Bindery
