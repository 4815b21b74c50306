import ApiLens.Proofs.Path.Components
import ApiLens.Proofs.Text.Lossy

/-!
Paths as text.

A path is text if all its pieces are, and then the text says all of it.
-/

namespace ApiLens

section Pieces

variable [DecidableEq α] {sep : α}

theorem intercalate_splitAt (sep : α) (as : List α) :
    [sep].intercalate (splitAt sep as) = as := by
  induction as
  case nil => rfl
  case cons a as ih =>
    -- What follows has a first piece, which `a` starts unless it splits.
    have ⟨first, more, h⟩ := List.exists_cons_of_ne_nil <| splitAt_ne_nil sep as
    rw [h] at ih
    unfold splitAt
    split
    case isTrue ha => rw [h, List.intercalate_cons_cons, ih, ha]; rfl
    case isFalse =>
      simp only [h]
      rw [← ih]
      cases more
      case nil  => simp
      case cons => simp only [List.intercalate_cons_cons]; rfl

theorem splitAt_of_notMem (h : sep ∉ as) : splitAt sep as = [as] := by
  induction as
  case nil => rfl
  case cons a as ih =>
    have ⟨ha, has⟩ := List.ne_and_not_mem_of_not_mem_cons h
    rw [splitAt, if_neg ha.symm, ih has]

theorem splitAt_append (h : sep ∉ as) (bs : List α) :
    splitAt sep (as ++ sep :: bs) = as :: splitAt sep bs := by
  induction as
  case nil => exact if_pos rfl
  case cons a as ih =>
    have ⟨ha, has⟩ := List.ne_and_not_mem_of_not_mem_cons h
    rw [List.cons_append, splitAt, if_neg ha.symm, ih has]

theorem splitAt_intercalate (hn : pieces ≠ []) (h : ∀ piece ∈ pieces, sep ∉ piece) :
    splitAt sep ([sep].intercalate pieces) = pieces := by
  induction pieces
  case nil => exact absurd rfl hn
  case cons piece rest ih =>
    have ⟨hp, hr⟩ := List.forall_mem_cons.mp h
    cases rest
    case nil => simpa using splitAt_of_notMem hp
    case cons next rest =>
      rw [List.intercalate_cons_cons, List.append_assoc, List.singleton_append, splitAt_append hp,
        ih (List.cons_ne_nil _ _) hr]

end Pieces

theorem Segment.shown_ofBytes (h : '/'.toUInt8 ∉ bytes) :
    (ofBytes bytes h).shown = lossyText bytes := by
  unfold ofBytes
  split
  case h_1 ht => exact (lossyText_of_utf8Text? ht).symm
  case h_2    => rfl

namespace Path

variable {p q : Path} {segments more : List Segment} {text : String}

theorem isSome_mapM_text?_iff :
    (segments.mapM Segment.text?).isSome ↔ ∀ s ∈ segments, s.text?.isSome := by
  induction segments
  case nil => simp
  case cons s rest ih =>
    cases hs : s.text? <;> cases hr : rest.mapM Segment.text? <;> simp_all

theorem isSome_text?_iff : p.text?.isSome ↔ ∀ s ∈ p.segments, s.text?.isSome := by
  rw [text?, Option.isSome_map, isSome_mapM_text?_iff]

theorem eq_map_shown_of_mapM_text? (h : segments.mapM Segment.text? = some texts) :
    texts = segments.map Segment.shown := by
  induction segments generalizing texts
  case nil => simpa using h.symm
  case cons s rest ih =>
    cases s
    case raw => simp [Segment.text?] at h
    case text =>
      cases hr : rest.mapM Segment.text?
      case none => simp [hr, Segment.text?] at h
      case some texts' =>
        obtain rfl : _ :: texts' = texts := by simpa [hr, Segment.text?] using h
        rw [ih hr, List.map_cons]
        rfl

theorem shown_of_text? (h : p.text? = some text) : p.shown = text := by
  obtain ⟨texts, ht, rfl⟩ := Option.map_eq_some_iff.mp h
  rw [shown, eq_map_shown_of_mapM_text? ht]

theorem eq_of_map_shown (hs : ∀ s ∈ segments, s.text?.isSome) (hm : ∀ s ∈ more, s.text?.isSome)
    (h : segments.map Segment.shown = more.map Segment.shown) : segments = more := by
  induction segments generalizing more
  case nil => exact (List.map_eq_nil_iff.mp h.symm).symm
  case cons s rest ih =>
    cases more
    case nil => cases h
    case cons t more =>
      have ⟨hs, hr⟩ := List.forall_mem_cons.mp hs
      have ⟨ht, hm⟩ := List.forall_mem_cons.mp hm
      obtain ⟨he, h⟩ := List.cons.inj h
      rw [ih hr hm h]
      cases s <;> cases t <;> simp_all [Segment.text?, Segment.shown]

theorem map_shown_ofString (text : String) :
    (ofString text).segments.map (String.toList ∘ Segment.shown) = splitAt '/' text.toList := by
  simp [ofString, Function.comp_def, Segment.shown]

theorem shown_ofString (text : String) : (ofString text).shown = text := by
  apply String.toList_injective
  rw [shown, String.toList_intercalate, List.map_map, map_shown_ofString]
  exact intercalate_splitAt '/' text.toList

-- What is shown of bytes can be told from all of them at once: no character goes on past a slash.
theorem shown_ofBytes (bytes : List UInt8) : (ofBytes bytes).shown = lossyText bytes := by
  have hm : (ofBytes bytes).segments.map (String.toList ∘ Segment.shown) =
      (splitAt '/'.toUInt8 bytes).map (Utf8.lossyFrom none) := by
    simp [ofBytes, Function.comp_def, Segment.shown_ofBytes, lossyText]
  apply String.toList_injective
  rw [shown, String.toList_intercalate, List.map_map, hm]
  exact (Utf8.lossyFrom_intercalate _).symm.trans <| by
    rw [intercalate_splitAt, lossyText, String.toList_ofList]

theorem isSome_text?_ofString (text : String) : (ofString text).text?.isSome := by
  refine isSome_text?_iff.mpr fun s hs => ?_
  obtain ⟨_, _, rfl⟩ := text_of_mem_ofString hs
  rfl

theorem map_shown_of_text? (h : p.text?.isSome) :
    p.segments.map (String.toList ∘ Segment.shown) = splitAt '/' p.shown.toList := by
  rw [shown, String.toList_intercalate, List.map_map]
  refine (splitAt_intercalate (by simp [p.nonempty]) fun piece hp => ?_).symm
  obtain ⟨s, hs, rfl⟩ := List.mem_map.mp hp
  have ht := isSome_text?_iff.mp h s hs
  cases s
  case text h => exact h
  case raw => cases ht

-- A path that is text is all that the text says.
theorem text?_eq_some_iff : p.text? = some text ↔ p = ofString text := by
  constructor
  case mp =>
    intro h
    have ht : p.text?.isSome := h ▸ rfl
    have hm : p.segments.map (String.toList ∘ Segment.shown) =
        (ofString text).segments.map (String.toList ∘ Segment.shown) := by
      rw [map_shown_of_text? ht, shown_of_text? h, map_shown_ofString]
    rw [← List.map_map, ← List.map_map] at hm
    have hs := eq_of_map_shown (isSome_text?_iff.mp ht)
      (isSome_text?_iff.mp <| isSome_text?_ofString text)
      (List.map_injective_iff.mpr (fun _ _ => String.toList_injective) hm)
    cases p
    congr 1
  case mpr =>
    rintro rfl
    have ⟨written, hw⟩ := Option.isSome_iff_exists.mp <| isSome_text?_ofString text
    rw [hw, ← shown_of_text? hw, shown_ofString]

-- Paths that can be written as text.
def Written (p : Path) : Prop := ∃ text, p = ofString text

theorem written_iff : p.Written ↔ p.text?.isSome := by
  simp only [Written, ← text?_eq_some_iff, Option.isSome_iff_exists]

@[simp]
theorem written_ofString : (ofString text).Written := ⟨text, rfl⟩

theorem Written.ofString_shown (h : p.Written) : ofString p.shown = p := by
  obtain ⟨text, rfl⟩ := h
  rw [shown_ofString]

theorem Written.join (hp : p.Written) (hq : q.Written) : (p.join q).Written := by
  rw [written_iff, isSome_text?_iff] at *
  by_cases ha : q.isAbsolute
  case pos => rwa [Path.join, if_pos ha]
  case neg =>
    obtain ⟨init, gone, -, hs, hj⟩ := join_cases p ha
    rw [hj]
    intro s hm
    obtain hm | hm := List.mem_append.mp hm
    case inl => exact hp s <| hs ▸ List.mem_append_left _ hm
    case inr => exact hq s hm

end Path
end ApiLens
