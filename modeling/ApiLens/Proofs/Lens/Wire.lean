import ApiLens.Lens.Wire
import ApiLens.Proofs.Json.Decode

/-!
Lenses come back as they were sent.
-/

namespace ApiLens

theorem Position.decode_toJson (p : Position) : decode p.toJson = .ok p := by
  rw [decode, toJson, RecordShape.read_obj]
  simp only [List.foldlM_cons, List.foldlM_nil, step, Decoder.word_ofWord]
  rfl

theorem Range.decode_toJson (r : Range) : decode r.toJson = .ok r := by
  rw [decode, toJson, RecordShape.read_obj]
  simp only [List.foldlM_cons, List.foldlM_nil, step, Position.decode_toJson]
  rfl

theorem Command.decode_toJson (c : Command) : decode c.toJson = .ok c := by
  obtain ⟨title, command, args⟩ := c
  rw [decode, toJson, RecordShape.read_obj]
  cases args
  case none => rfl
  case some args =>
    have ha : Decoder.option (.list .any) (.arr args) = .ok (some args) :=
      Decoder.option_of_ok Decoder.list_any (by simp)
    simp only [Option.map_some, Option.toList_some, List.cons_append, List.nil_append,
      List.foldlM_cons, List.foldlM_nil, step, ha]
    rfl

namespace CodeLens

theorem decode_toJson {l : CodeLens} (h : l.data ≠ some .null) : decode l.toJson = .ok l := by
  obtain ⟨range, command, data⟩ := l
  have hc c : Decoder.option Command.decode (Command.toJson c) = .ok (some c) :=
    Decoder.option_of_ok c.decode_toJson (by simp [Command.toJson])
  have hd d (hd : data = some d) : Decoder.option .any d = .ok (some d) :=
    Decoder.option_of_ok rfl fun hn => h (hn ▸ hd)
  rw [decode, toJson, RecordShape.read_obj]
  cases command <;> cases data <;>
    simp only [Option.map_none, Option.map_some, Option.toList_none, Option.toList_some,
      List.cons_append, List.nil_append, List.foldlM_cons, List.foldlM_nil, step,
      Range.decode_toJson, hc, hd] <;>
    rfl

theorem data_step (h : step p key v = .ok q) (hp : p.data ≠ some (some .null)) :
    q.data ≠ some (some .null) := by
  simp only [step] at h
  split at h
  case h_3 =>
    obtain ⟨d, hd, hq⟩ := DecodeError.bind_eq_ok_iff.mp h
    cases hq
    rintro ⟨⟩
    cases v <;> cases hd
  case h_4 => cases h; exact hp
  all_goals
    obtain ⟨_, _, hq⟩ := DecodeError.bind_eq_ok_iff.mp h
    cases hq
    exact hp

-- Data that is null counts as none.
theorem data_of_decode (h : decode v = .ok l) : l.data ≠ some .null := by
  obtain ⟨parts, hp, hl⟩ := RecordShape.exists_of_read_eq_ok
    (P := fun p : Parts => p.data ≠ some (some .null)) h (by simp) fun _ _ _ _ => data_step
  simp only [finish, DecodeError.bind_eq_ok_iff] at hl
  obtain ⟨_, _, _, _, _, ho, he⟩ := hl
  cases he
  rw [eq_join_of_optional ho]
  exact fun hn => hp <| Option.join_eq_some_iff.mp hn

end CodeLens

end ApiLens
