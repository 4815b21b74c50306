/-!
Texts and other lists in pieces.
-/

namespace ApiLens

/-- Splits at every `sep`; the result is never empty. -/
def splitAt [DecidableEq α] (sep : α) : List α → List (List α)
  | [] => [[]]
  | a :: rest =>
    if a = sep then [] :: splitAt sep rest
    else
      match splitAt sep rest with
      | [] => [[a]]
      | first :: more => (a :: first) :: more

theorem splitAt_ne_nil [DecidableEq α] (sep : α) (as : List α) : splitAt sep as ≠ [] := by
  fun_cases splitAt sep as <;> simp_all

theorem notMem_of_mem_splitAt [DecidableEq α] {sep : α} (h : piece ∈ splitAt sep as) :
    sep ∉ piece := by
  induction as generalizing piece
  case nil => simp_all [splitAt]
  case cons a rest ih =>
    unfold splitAt at h
    split at h
    case isTrue =>
      cases List.mem_cons.mp h
      case inl he => simp [he]
      case inr h => exact ih h
    case isFalse ha =>
      split at h
      case h_1 hs => exact absurd hs (splitAt_ne_nil sep rest)
      case h_2 first more hs =>
        cases List.mem_cons.mp h
        case inl he =>
          have hf : sep ∉ first := ih <| hs ▸ List.mem_cons_self
          simp [he, Ne.symm ha, hf]
        case inr h => exact ih <| hs ▸ List.mem_cons_of_mem _ h

end ApiLens
