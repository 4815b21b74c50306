import ApiLens.Declaration.Wire
import ApiLens.Proofs.Json.Decode
import ApiLens.Proofs.Json.Printed

/-!
Declarations come back as they were written, and so does a text that lists them.
-/

namespace ApiLens

theorem Span.decode_toJson (s : Span) : decode s.toJson = .ok s := by
  rw [decode, toJson, RecordShape.read_obj]
  simp only [List.foldlM_cons, List.foldlM_nil, step, Decoder.option_word]
  rfl

theorem Span.printable_toJson (s : Span) : s.toJson.Printable (depth + 1) :=
  .obj (by simp [Json.Fields.Distinct]) <| by simp [Json.printable_ofOption_ofWord]

theorem Category.decode_text (c : Category) : decode (.str c.text) = .ok c := by
  cases c <;> rfl

theorem Declaration.decode_toJson (d : Declaration) : decode d.toJson = .ok d := by
  rw [decode, toJson, RecordShape.read_obj]
  simp only [List.foldlM_cons, List.foldlM_nil, step, Span.decode_toJson, Category.decode_text]
  rfl

theorem Declaration.printable_toJson (d : Declaration) : d.toJson.Printable (depth + 2) :=
  .obj (by simp [Json.Fields.Distinct]) <| by simp [Json.Printable.str, Span.printable_toJson]

theorem Declaration.parse_pretty (ds : List Declaration) :
    Json.parse ((Json.arr (ds.map toJson)).pretty ++ "\n") = .ok (.arr (ds.map toJson)) := by
  refine Json.parse_pretty <| .arr fun v hv => ?_
  obtain ⟨d, _, rfl⟩ := List.mem_map.mp hv
  exact d.printable_toJson

end ApiLens
