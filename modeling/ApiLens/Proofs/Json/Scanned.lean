import ApiLens.Json.Printer
import ApiLens.Proofs.Json.Keys
import Mathlib.Data.List.DropRight
import Mathlib.Tactic.IntervalCases

/-!
How the reader takes in one part of a text, whatever is behind it.

Blanks are passed over. A text goes on to the quote that ends it, and a number as far as it can.
-/

namespace ApiLens.Json

theorem fitsUnsigned_iff : fitsUnsigned 64 i ↔ 0 ≤ i ∧ i < 2 ^ 64 := by
  simp [fitsUnsigned]

theorem fitsSigned_iff : fitsSigned 64 i ↔ -2 ^ 63 ≤ i ∧ i < 2 ^ 63 := by
  simp [fitsSigned]

section Blank

variable {blanks cs : List Char}

theorem skipBlank_append (h : ∀ c ∈ blanks, isBlank c) : skipBlank (blanks ++ cs) = skipBlank cs :=
  List.dropWhile_append_of_pos h

theorem skipBlank_cons (h : isBlank c = false) : skipBlank (c :: cs) = c :: cs :=
  List.dropWhile_cons_of_neg (by simp [h])

theorem skipBlank_skipBlank : skipBlank (skipBlank cs) = skipBlank cs :=
  List.dropWhile_idempotent _ _

theorem value_skipBlank : value fuel depth (skipBlank cs) = value fuel depth cs := by
  cases fuel
  case zero => rfl
  case succ => rw [value, value, skipBlank_skipBlank]

theorem value_append (h : ∀ c ∈ blanks, isBlank c) :
    value fuel depth (blanks ++ cs) = value fuel depth cs := by
  rw [← value_skipBlank, skipBlank_append h, value_skipBlank]

theorem items_skipBlank : items fuel depth seen (skipBlank cs) = items fuel depth seen cs := by
  cases fuel
  case zero => rfl
  case succ => rw [items, items, value_skipBlank]

theorem members_skipBlank :
    members fuel depth seen (skipBlank cs) = members fuel depth seen cs := by
  cases fuel
  case zero => rfl
  case succ => rw [members, members, skipBlank_skipBlank]

-- No number goes on here.
def Stops (cs : List Char) : Prop :=
  ∀ c ∈ cs.head?, c.isDigit = false ∧ c ≠ '.' ∧ isExponentMark c = false

theorem stops_cons (h : c.isDigit = false ∧ c ≠ '.' ∧ isExponentMark c = false) :
    Stops (c :: cs) := by
  simpa [Stops] using h

theorem stops_append (h : ∀ c ∈ blanks, isBlank c) (hs : Stops cs) : Stops (blanks ++ cs) := by
  cases blanks
  case nil => exact hs
  case cons b blanks =>
    intro c hc
    obtain rfl : b = c := by simpa using hc
    have hb := h b List.mem_cons_self
    simp only [isBlank, Bool.or_eq_true, beq_iff_eq] at hb
    obtain ((rfl | rfl) | rfl) | rfl := hb <;> decide

end Blank

section Text

-- Each sign below the blank has a code of two digits.
theorem hexUnit?_hexDigit : ∀ n < 32,
    hexUnit? '0' '0' (hexDigit (n / 16)) (hexDigit (n % 16)) = some n := by
  decide

theorem textBody_escape {c : Char} {seen cs : List Char} :
    textBody seen ((escape c).toList ++ cs) = textBody (c :: seen) cs := by
  unfold escape
  split
  case h_8 =>
    split
    case isTrue hc =>
      have hn : c.toNat < 32 := hc
      have hu := hexUnit?_hexDigit _ hn
      have ht : isTrailing c.toNat = false := by simp [isTrailing]; omega
      have hl : isLeading c.toNat = false := by simp [isLeading]; omega
      simp [textBody, hu, ht, hl]
    case isFalse hc => simp [textBody, hc]
  all_goals simp [textBody, simpleEscape?]

theorem textBody_flatMap {chars seen rest : List Char} :
    textBody seen (chars.flatMap (fun c => (escape c).toList) ++ '"' :: rest) =
      .ok (String.ofList (seen.reverse ++ chars), rest) := by
  induction chars generalizing seen
  case nil => simp [textBody]
  case cons c chars ih =>
    rw [List.flatMap_cons, List.append_assoc, textBody_escape, ih]
    simp

theorem toList_quote (s : String) :
    (quote s).toList = '"' :: (s.toList.flatMap (fun c => (escape c).toList) ++ ['"']) := by
  have h (cs : List Char) (text : String) :
      (cs.foldl (fun text c => text ++ escape c) text).toList =
        text.toList ++ cs.flatMap fun c => (escape c).toList := by
    induction cs generalizing text <;> simp_all
  simp [quote, h]

theorem exists_textBody (s : String) : ∃ body, (quote s).toList = '"' :: body ∧
    ∀ rest, textBody [] (body ++ rest) = .ok (s, rest) := by
  refine ⟨_, toList_quote s, fun rest => ?_⟩
  rw [List.append_assoc, List.singleton_append, textBody_flatMap]
  simp

end Text

section Numbers

variable {n : Nat} {rest : List Char} {negative : Bool}

theorem exists_toDigits (hn : 0 < n) : ∃ c cs, Nat.toDigits 10 n = c :: cs ∧ c ≠ '0' := by
  induction n using Nat.strongRecOn
  case ind n ih =>
    by_cases h : n < 10
    case pos =>
      refine ⟨_, _, Nat.toDigits_of_lt_base h, ?_⟩
      interval_cases n <;> decide
    case neg =>
      have ⟨c, cs, hc, h0⟩ := ih (n / 10) (by omega) (by omega)
      refine ⟨c, cs ++ [(n % 10).digitChar], ?_, h0⟩
      rw [Nat.toDigits_of_base_le (by omega) (by omega), hc, List.cons_append]

theorem absorb_eq (h : fitsUnsigned 64 (Nat.ofDigitChars 10 ds n)) :
    absorb n taken ds = (Nat.ofDigitChars 10 ds n, taken + ds.length, []) := by
  induction ds generalizing n taken
  case nil => rfl
  case cons d ds ih =>
    have hd : 10 * n + (d.toNat - '0'.toNat) = n * 10 + digitValue d := by simp [digitValue]; omega
    rw [Nat.ofDigitChars_cons, hd] at h ⊢
    have hle : n * 10 + digitValue d ≤ Nat.ofDigitChars 10 ds (n * 10 + digitValue d) := by
      rw [Nat.ofDigitChars_eq_ofDigitChars_zero]
      exact Nat.le_add_right_of_le <| Nat.le_mul_of_pos_left _ <| by positivity
    have hf : fitsUnsigned 64 ↑(n * 10 + digitValue d) := by
      rw [fitsUnsigned_iff] at h ⊢
      omega
    rw [absorb, if_pos hf, ih h, List.length_cons, Nat.add_right_comm, Nat.add_assoc]

theorem afterWhole_toDigits (h : fitsUnsigned 64 n) (hs : Stops rest) :
    afterWhole negative (Nat.toDigits 10 n) rest = afterWhole.whole negative rest n [] := by
  have ha : absorb 0 0 (Nat.toDigits 10 n) = (n, 0 + (Nat.toDigits 10 n).length, []) := by
    rw [absorb_eq (by rwa [Nat.ofDigitChars_ten_toDigits]), Nat.ofDigitChars_ten_toDigits]
  simp only [afterWhole, ha]
  split
  case h_1 => exact absurd rfl (hs _ rfl).2.1
  case h_2 c _ _ => rw [(hs c rfl).2.2]; rfl
  case h_3 => rfl

theorem number_toDigits (h : fitsUnsigned 64 n) (hs : Stops rest) :
    number negative (Nat.toDigits 10 n ++ rest) = afterWhole.whole negative rest n [] := by
  have hd : ∀ c ∈ Nat.toDigits 10 n, c.isDigit := fun c hc =>
    Nat.isDigit_of_mem_toDigits (by decide) (by decide) hc
  have hr : rest.takeWhile Char.isDigit = [] ∧ rest.dropWhile Char.isDigit = rest := by
    cases rest
    case nil => simp
    case cons c rest => simp [(hs c rfl).1]
  by_cases hn : n = 0
  case pos =>
    subst hn
    rw [← afterWhole_toDigits h hs, Nat.toDigits_zero, List.singleton_append]
    simp only [number]
    split
    case h_1 c _ => exact if_neg <| by simp [(hs c rfl).1]
    case h_2 => rfl
  case neg =>
    have ⟨c, cs, hc, h0⟩ := exists_toDigits (Nat.pos_of_ne_zero hn)
    rw [← afterWhole_toDigits h hs]
    have hsplit : (Nat.toDigits 10 n ++ rest).takeWhile Char.isDigit = Nat.toDigits 10 n ∧
        (Nat.toDigits 10 n ++ rest).dropWhile Char.isDigit = rest := by
      rw [List.takeWhile_append_of_pos hd, List.dropWhile_append_of_pos hd, hr.1, hr.2]
      simp
    rw [hc] at hd hsplit ⊢
    rw [List.cons_append] at hsplit ⊢
    rw [number]
    case x_1 => simpa using h0
    rw [if_pos (hd c List.mem_cons_self), hsplit.1, hsplit.2]

theorem isBlank_of_isDigit (h : c.isDigit) : isBlank c = false := by
  rw [Bool.eq_false_iff]
  simp only [isBlank, Bool.or_eq_true, beq_iff_eq, ne_eq]
  rintro (((rfl | rfl) | rfl) | rfl) <;> simp at h

theorem value_digit (h : c.isDigit) :
    value (fuel + 1) depth (c :: rest) = number false (c :: rest) := by
  rw [value, skipBlank_cons (isBlank_of_isDigit h)]
  split
  case h_1 he => cases he
  case h_9 he => cases he; exact if_pos h
  all_goals
    rename_i he
    cases he
    simp at h

theorem exists_digit (n : Nat) : ∃ c cs, Nat.toDigits 10 n = c :: cs ∧ c.isDigit := by
  cases h : Nat.toDigits 10 n
  case nil       => exact absurd h Nat.toDigits_ne_nil
  case cons c cs =>
    have hc : c ∈ Nat.toDigits 10 n := h ▸ List.mem_cons_self
    exact ⟨c, cs, rfl, Nat.isDigit_of_mem_toDigits (by decide) (by decide) hc⟩

theorem value_toDigits (h : fitsUnsigned 64 n) (hs : Stops rest) :
    value (fuel + 1) depth (Nat.toDigits 10 n ++ rest) = .ok (num (.int n), rest) := by
  have hn : number false (Nat.toDigits 10 n ++ rest) = .ok (num (.int n), rest) :=
    number_toDigits h hs
  have ⟨c, cs, hc, hd⟩ := exists_digit n
  rw [hc, List.cons_append] at hn ⊢
  rw [value_digit hd, hn]

theorem value_negative (hn : 0 < n) (h : fitsSigned 64 (-n)) (hs : Stops rest) :
    value (fuel + 1) depth ('-' :: Nat.toDigits 10 n ++ rest) = .ok (num (.int (-n)), rest) := by
  have hf : fitsUnsigned 64 n := by
    rw [fitsSigned_iff] at h
    rw [fitsUnsigned_iff]
    omega
  have hv : number true (Nat.toDigits 10 n ++ rest) = .ok (num (.int (-n)), rest) := by
    simp [number_toDigits hf hs, afterWhole.whole, h, Nat.ne_of_gt hn]
  exact hv

theorem toList_toString_ofNat (n : Nat) : (toString (Int.ofNat n)).toList = Nat.toDigits 10 n := by
  rw [Int.toString_eq_repr, Int.repr, Nat.toList_repr]

theorem toList_toString_negSucc (n : Nat) :
    (toString (Int.negSucc n)).toList = '-' :: Nat.toDigits 10 (n + 1) := by
  rw [Int.toString_eq_repr, Int.repr, String.toList_append, Nat.toList_repr]
  rfl

theorem value_int (h : fitsUnsigned 64 i ∨ fitsSigned 64 i) (hs : Stops rest) :
    value (fuel + 1) depth ((toString i).toList ++ rest) = .ok (num (.int i), rest) := by
  rw [fitsUnsigned_iff, fitsSigned_iff] at h
  cases i
  case ofNat n =>
    rw [toList_toString_ofNat]
    exact value_toDigits (fitsUnsigned_iff.mpr <| by rw [Int.ofNat_eq_natCast] at h; omega) hs
  case negSucc n =>
    rw [toList_toString_negSucc]
    exact value_negative n.succ_pos (fitsSigned_iff.mpr <| by omega) hs

theorem exists_toString (i : Int) :
    ∃ c cs, (toString i).toList = c :: cs ∧ (c.isDigit ∨ c = '-') := by
  cases i
  case ofNat n =>
    have ⟨c, cs, hc, hd⟩ := exists_digit n
    exact ⟨c, cs, toList_toString_ofNat n ▸ hc, .inl hd⟩
  case negSucc n => exact ⟨'-', _, toList_toString_negSucc n, .inr rfl⟩

end Numbers

section Step

variable {blanks cs rest : List Char}

theorem value_bracket (hb : ∀ c ∈ blanks, isBlank c) (hc : isBlank c = false) (h : c ≠ ']') :
    value (fuel + 1) (depth + 1) ('[' :: (blanks ++ c :: cs)) =
      items fuel depth [] (blanks ++ c :: cs) := by
  rw [value, skipBlank_cons (by decide), ← items_skipBlank]
  simp only [skipBlank_append hb, skipBlank_cons hc]
  split
  case h_1 he => cases he; contradiction
  case h_2    => rfl

theorem value_brace (hb : ∀ c ∈ blanks, isBlank c) (hc : isBlank c = false) (h : c ≠ '}') :
    value (fuel + 1) (depth + 1) ('{' :: (blanks ++ c :: cs)) =
      members fuel depth [] (blanks ++ c :: cs) := by
  rw [value, skipBlank_cons (by decide), ← members_skipBlank]
  simp only [skipBlank_append hb, skipBlank_cons hc]
  split
  case h_1 he => cases he; contradiction
  case h_2    => rfl

theorem items_comma (h : value fuel depth cs = .ok (v, ',' :: rest)) :
    items (fuel + 1) depth seen cs = items fuel depth (v :: seen) rest := by
  rw [items, h]
  simp only
  rw [skipBlank_cons (by decide)]
  rfl

theorem items_bracket (hb : ∀ c ∈ blanks, isBlank c)
    (h : value fuel depth cs = .ok (v, blanks ++ ']' :: rest)) :
    items (fuel + 1) depth seen cs = .ok (arr (v :: seen).reverse, rest) := by
  rw [items, h]
  simp only
  rw [skipBlank_append hb, skipBlank_cons (by decide)]
  rfl

theorem members_comma (hb : ∀ c ∈ blanks, isBlank c)
    (h : value fuel depth cs = .ok (v, ',' :: rest)) :
    members (fuel + 1) depth seen (blanks ++ ((quote k).toList ++ ':' :: cs)) =
      members fuel depth (seen.put k v) rest := by
  have ⟨body, hq, ht⟩ := exists_textBody k
  rw [members, skipBlank_append hb, hq, List.cons_append, skipBlank_cons (by decide)]
  simp only [ht]
  rw [skipBlank_cons (by decide)]
  simp only [h]
  rw [skipBlank_cons (by decide)]
  rfl

theorem members_brace {after : List Char} (hb : ∀ c ∈ blanks, isBlank c)
    (ha : ∀ c ∈ after, isBlank c) (h : value fuel depth cs = .ok (v, after ++ '}' :: rest)) :
    members (fuel + 1) depth seen (blanks ++ ((quote k).toList ++ ':' :: cs)) =
      .ok (obj (seen.put k v), rest) := by
  have ⟨body, hq, ht⟩ := exists_textBody k
  rw [members, skipBlank_append hb, hq, List.cons_append, skipBlank_cons (by decide)]
  simp only [ht]
  rw [skipBlank_cons (by decide)]
  simp only [h]
  rw [skipBlank_append ha, skipBlank_cons (by decide)]
  rfl

end Step

end ApiLens.Json
