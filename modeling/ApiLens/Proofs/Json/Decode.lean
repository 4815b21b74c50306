import ApiLens.Json.Decode
import Mathlib.Data.List.Basic

/-!
What decoders accept.
-/

namespace ApiLens

namespace DecodeError

theorem bind_eq_ok_iff {x : Except DecodeError α} {f : α → Except DecodeError β} :
    (x >>= f) = .ok b ↔ ∃ a, x = .ok a ∧ f a = .ok b := by
  cases x <;> simp [bind, Except.bind]

theorem exists_of_map_eq_ok {x : Except DecodeError α} {f : α → β} (h : f <$> x = .ok b) :
    ∃ a, f a = b := by
  cases x <;> cases h
  exact ⟨_, rfl⟩

end DecodeError

theorem Json.word?_eq_some_iff {v : Json} : v.word? = some n ↔ v = .ofWord n := by
  constructor
  case mp =>
    intro h
    obtain _ | _ | ⟨i | _⟩ | _ | _ | _ := v <;> try cases h
    simp only [word?] at h
    split at h
    case isTrue hf =>
      simp only [fitsUnsigned, Bool.and_eq_true, decide_eq_true_eq] at hf
      cases h
      have hi : i < 4294967296 := hf.2
      have hn : (UInt32.ofNat i.toNat).toNat = i.toNat :=
        UInt32.toNat_ofNat_of_lt (by simp only [UInt32.size]; omega)
      rw [ofWord, ofNat, hn, Int.toNat_of_nonneg hf.1]
    case isFalse => cases h
  case mpr =>
    rintro rfl
    have hf : fitsUnsigned 32 n.toNat := by
      have := n.toNat_lt
      simp only [fitsUnsigned, Bool.and_eq_true, decide_eq_true_eq]
      exact ⟨by omega, Int.ofNat_lt.mpr this⟩
    simp [word?, ofWord, ofNat, hf]

namespace Decoder

theorem word_ofWord : word (.ofWord n) = .ok n := by
  have h : (Json.ofWord n).word? = some n := Json.word?_eq_some_iff.mpr rfl
  rw [Json.ofWord, Json.ofNat] at h ⊢
  rw [word, h]

section Restored

variable {d : Decoder α} {f : α → Json}

theorem list_map (h : ∀ a ∈ as, d (f a) = .ok a) : list d (.arr (as.map f)) = .ok as := by
  rw [list]
  induction as
  case nil => rfl
  case cons a rest ih =>
    have ⟨ha, hr⟩ := List.forall_mem_cons.mp h
    rw [List.map_cons, List.mapM_cons, ha, ih hr]
    rfl

theorem list_any : list any (.arr items) = .ok items := by
  have h : list any (.arr (items.map id)) = .ok items := list_map fun _ _ => rfl
  rwa [List.map_id] at h

theorem option_of_ok (h : d v = .ok a) (hn : v ≠ .null) : option d v = .ok (some a) := by
  cases v
  case null => contradiction
  all_goals simp [option, h, Except.map]

-- Where null stands for nothing, nothing else may be written as null.
theorem option_ofOption (h : ∀ a ∈ part, d (f a) = .ok a) (hn : ∀ a, f a ≠ .null) :
    option d (.ofOption f part) = .ok part := by
  cases part
  case none   => rfl
  case some a => exact option_of_ok (h a rfl) (hn a)

theorem option_text (part : Option String) : option text (.ofOption .str part) = .ok part :=
  option_ofOption (fun _ _ => rfl) (by simp)

theorem option_word (part : Option UInt32) : option word (.ofOption .ofWord part) = .ok part :=
  option_ofOption (fun _ _ => word_ofWord) fun _ => by simp [Json.ofWord, Json.ofNat]

end Restored

end Decoder

section Record

variable {shape : RecordShape} {start : β} {step : β → String → Json → Except DecodeError β}
  {finish : (String → DecodeError) → β → Except DecodeError α}

-- Of an object nothing is missing that may be left out, and nothing is too much.
theorem RecordShape.read_obj : shape.read start step finish (.obj given) =
    (given.foldlM (fun b (key, v) => step b key v) start >>= finish .missingField) :=
  congrArg (_ >>= ·) <| funext fun parts => bind_pure (finish .missingField parts)

theorem preserved_of_foldlM {given : Json.Fields} {P : β → Prop}
    (hs : ∀ b key v c, step b key v = .ok c → P b → P c) (hb : P b)
    (h : given.foldlM (fun b f => step b f.1 f.2) b = .ok c) : P c := by
  induction given generalizing b
  case nil => cases h; exact hb
  case cons f rest ih =>
    rw [List.foldlM_cons] at h
    obtain ⟨b', hb', hc⟩ := DecodeError.bind_eq_ok_iff.mp h
    exact ih (hs _ _ _ _ hb' hb) hc

-- What each step preserves holds of the parts that a record is finished from.
theorem RecordShape.exists_of_read_eq_ok {P : β → Prop}
    (h : shape.read start step finish v = .ok a) (h0 : P start)
    (hs : ∀ b key v c, step b key v = .ok c → P b → P c) :
    ∃ b, P b ∧ finish (shape.missing v) b = .ok a := by
  simp only [read, DecodeError.bind_eq_ok_iff] at h
  obtain ⟨_, _, b, hb, _, ha, _, _, he⟩ := h
  cases he
  exact ⟨b, preserved_of_foldlM hs h0 hb, ha⟩

end Record

theorem eq_join_of_optional (h : optional missing field part = .ok a) : a = part.join := by
  simp only [optional] at h
  split at h
  case h_1 => cases h; rfl
  case h_2 => split at h <;> cases h; rfl

end ApiLens
