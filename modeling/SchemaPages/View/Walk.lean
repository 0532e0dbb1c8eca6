/-!
# Walks through names

Parents and children are given by name, so a walk may meet a name twice or run in a circle. Both
walks here remember the names they have met; each step takes a name out of those that are left.

* `preorder`: everything that can be reached, each name once, nearest branch first;
* `chain`: the names met by going from parent to parent.
-/

namespace SchemaPages.Walk

/-- How many of the nodes have not been met. -/
def unmet (nodes seen : List String) : Nat := nodes.countP (fun m => !seen.contains m)

theorem unmet_cons_le (nodes seen : List String) (n : String) :
    unmet nodes (n :: seen) ≤ unmet nodes seen :=
  List.countP_mono_left fun m _ h => by
    simp only [List.contains_cons, Bool.not_or, Bool.and_eq_true] at h
    exact h.2

theorem unmet_cons_lt {nodes seen : List String} {n : String} (h : n ∈ nodes) (hs : n ∉ seen) :
    unmet nodes (n :: seen) < unmet nodes seen := by
  induction nodes with
  | nil => simp at h
  | cons m rest ih =>
    have le := unmet_cons_le rest seen n
    unfold unmet at ih le ⊢
    rw [List.countP_cons, List.countP_cons]
    by_cases hmn : m = n
    · have hc : (!seen.contains m) = true := by simp [hmn, hs]
      have hd : (!(n :: seen).contains m) = false := by simp [hmn]
      simp only [hc, hd, if_true, Bool.false_eq_true, if_false]
      omega
    · have lt := ih ((List.mem_cons.1 h).resolve_left fun e => hmn e.symm)
      have same : (!(n :: seen).contains m) = (!seen.contains m) := by simp [hmn]
      rw [same]
      omega

/-- Visits what is to do from the left. A visited element puts the elements next to it before what
is left to do, unless its name is no node and so has nothing next to it. -/
def preorder {α : Type} (name : α → String) (next : α → List α) (nodes : List String)
    (seen : List String) (todo : List α) : List α :=
  match todo with
  | [] => []
  | a :: rest =>
    if name a ∈ seen then preorder name next nodes seen rest
    else if name a ∈ nodes then
      a :: preorder name next nodes (name a :: seen) (next a ++ rest)
    else a :: preorder name next nodes (name a :: seen) rest
termination_by (unmet nodes seen, todo.length)
decreasing_by
  · exact Prod.Lex.right _ (by simp)
  · rename_i hs hn
    exact Prod.Lex.left _ _ (unmet_cons_lt hn hs)
  · rcases Nat.lt_or_eq_of_le (unmet_cons_le nodes seen (name a)) with h | h
    · exact Prod.Lex.left _ _ h
    · rw [h]; exact Prod.Lex.right _ (by simp)

/-- Goes from parent to parent until a name has been met before, is unknown, or has no parent. A
name that is no node has no parent either. -/
def chain {α : Type} (find : String → Option α) (parent : α → Option String) (nodes : List String)
    (seen : List String) (start : Option String) : List (String × Option α) :=
  match start with
  | none => []
  | some n =>
    if n ∈ seen then []
    else match find n with
      | none => [(n, none)]
      | some a =>
        if n ∈ nodes then (n, some a) :: chain find parent nodes (n :: seen) (parent a)
        else [(n, some a)]
termination_by unmet nodes seen
decreasing_by
  rename_i hs hn
  exact unmet_cons_lt hn hs

end SchemaPages.Walk
