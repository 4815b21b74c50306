import ApiLens.Proofs.Json.Scanned

/-!
What is printed is read again.

Both ways of printing write the same signs and differ in the blanks between them, which the reader
passes over. Floats are left out: what is read of their digits is rounded again.
-/

namespace ApiLens.Json

-- What a text can tell: containers that nest no deeper than they may, with distinct keys, and whole
-- numbers of 64 bits.
inductive Printable : (depth : Nat) → Json → Prop
  | null : Printable depth null
  | bool : Printable depth (bool b)
  | int  : fitsUnsigned 64 i ∨ fitsSigned 64 i → Printable depth (num (.int i))
  | str  : Printable depth (str s)
  | arr {vs : List Json} : (∀ v ∈ vs, Printable depth v) → Printable (depth + 1) (arr vs)
  | obj {fields : Fields} : fields.Distinct → (∀ f ∈ fields, Printable depth f.2) →
    Printable (depth + 1) (obj fields)

theorem printable_ofWord (n : UInt32) : Printable depth (ofWord n) := by
  have hn : n.toNat < 2 ^ 32 := n.toNat_lt
  exact .int <| .inl <| fitsUnsigned_iff.mpr <| by omega

theorem printable_ofOption_ofWord (n? : Option UInt32) : Printable depth (ofOption ofWord n?) := by
  cases n?
  case none   => exact .null
  case some n => exact printable_ofWord n

-- The blanks before what stands at a level of nesting, and after a colon.
structure Spacing where
  newline : Nat → List Char
  gap : List Char
  newline_blank : ∀ level, ∀ c ∈ newline level, isBlank c
  gap_blank : ∀ c ∈ gap, isBlank c

mutual

-- The signs of a value, with blanks in between.
def spell (s : Spacing) (level : Nat) : Json → List Char
  | arr []     => ['[', ']']
  | arr vs     => '[' :: (spellItems s (level + 1) vs ++ s.newline level ++ [']'])
  | obj []     => ['{', '}']
  | obj fields => '{' :: (spellFields s (level + 1) fields ++ s.newline level ++ ['}'])
  | v          => v.compact.toList

def spellItems (s : Spacing) (level : Nat) : List Json → List Char
  | []      => []
  | [v]     => s.newline level ++ spell s level v
  | v :: vs => s.newline level ++ spell s level v ++ ',' :: spellItems s level vs

def spellFields (s : Spacing) (level : Nat) : List (String × Json) → List Char
  | []               => []
  | [(k, v)]         => s.newline level ++ (quote k).toList ++ ':' :: (s.gap ++ spell s level v)
  | (k, v) :: fields =>
    s.newline level ++ (quote k).toList ++ ':' :: (s.gap ++ spell s level v) ++
      ',' :: spellFields s level fields

end

section Spelled

variable {s : Spacing} {blanks rest : List Char} {vs : List Json} {fields : Fields}

-- A value is read from its signs, wherever no number goes on behind them. Each sign allows for two
-- more calls.
def Reread (s : Spacing) (depth : Nat) (v : Json) : Prop :=
  ∀ level fuel rest, 2 * (spell s level v).length ≤ fuel → Stops rest →
    value fuel depth (spell s level v ++ rest) = .ok (v, rest)

theorem Reread.gap (h : Reread s depth v) (level : Nat)
    (hf : 2 * (spell s level v).length ≤ fuel) (hs : Stops rest) :
    value fuel depth (s.gap ++ (spell s level v ++ rest)) = .ok (v, rest) := by
  rw [value_append s.gap_blank, h level fuel rest hf hs]

theorem Reread.newline (h : Reread s depth v) (level : Nat)
    (hf : 2 * (spell s level v).length ≤ fuel) (hs : Stops rest) :
    value fuel depth (s.newline level ++ (spell s level v ++ rest)) = .ok (v, rest) := by
  rw [value_append (s.newline_blank level), h level fuel rest hf hs]

theorem items_spellItems (hb : ∀ c ∈ blanks, isBlank c) (hn : vs ≠ [])
    (hv : ∀ v ∈ vs, Reread s depth v) (hf : 2 * (spellItems s level vs).length + 1 ≤ fuel) :
    items fuel depth seen (spellItems s level vs ++ (blanks ++ ']' :: rest)) =
      .ok (.arr (seen.reverse ++ vs), rest) := by
  induction vs generalizing seen fuel
  case nil => contradiction
  case cons v vs ih =>
    have ⟨hr, hrs⟩ := List.forall_mem_cons.mp hv
    cases fuel
    case zero => omega
    case succ fuel =>
      cases vs
      case nil =>
        simp only [spellItems, List.length_append] at hf
        have hs : Stops (blanks ++ ']' :: rest) := stops_append hb <| stops_cons (by decide)
        rw [spellItems, List.append_assoc, items_bracket hb <| hr.newline level (by omega) hs,
          List.reverse_cons]
      case cons w vs =>
        simp only [spellItems, List.length_append, List.length_cons] at hf
        let tail := spellItems s level (w :: vs) ++ (blanks ++ ']' :: rest)
        have hs : Stops (',' :: tail) := stops_cons (by decide)
        have hi : items (fuel + 1) depth seen _ = items fuel depth (v :: seen) tail :=
          items_comma <| hr.newline level (by omega) hs
        rw [ih (List.cons_ne_nil w vs) hrs (by omega), List.reverse_cons] at hi
        simpa [spellItems, tail] using hi

theorem members_spellFields {seen : Fields} (hb : ∀ c ∈ blanks, isBlank c) (hn : fields ≠ [])
    (hd : (seen ++ fields).Distinct) (hv : ∀ f ∈ fields, Reread s depth f.2)
    (hf : 2 * (spellFields s level fields).length + 1 ≤ fuel) :
    members fuel depth seen (spellFields s level fields ++ (blanks ++ '}' :: rest)) =
      .ok (.obj (seen ++ fields), rest) := by
  induction fields generalizing seen fuel
  case nil => contradiction
  case cons f fields ih =>
    obtain ⟨k, v⟩ := f
    obtain ⟨hr : Reread s depth v, hrs⟩ := List.forall_mem_cons.mp hv
    have hp : seen.put k v = seen ++ [(k, v)] := by
      refine Fields.put_of_get?_eq_none <| Fields.get?_eq_none_iff.mpr fun hk => ?_
      rw [Fields.Distinct, List.map_append, List.nodup_append] at hd
      exact hd.2.2 k hk k (by simp) rfl
    cases fuel
    case zero => omega
    case succ fuel =>
      cases fields
      case nil =>
        simp only [spellFields, List.length_append, List.length_cons] at hf
        have hs : Stops (blanks ++ '}' :: rest) := stops_append hb <| stops_cons (by decide)
        have hm : members (fuel + 1) depth seen _ = .ok (obj (seen.put k v), rest) :=
          members_brace (s.newline_blank level) hb <| hr.gap level (by omega) hs
        rw [hp] at hm
        simpa [spellFields] using hm
      case cons g fields =>
        simp only [spellFields, List.length_append, List.length_cons] at hf
        let tail := spellFields s level (g :: fields) ++ (blanks ++ '}' :: rest)
        have hs : Stops (',' :: tail) := stops_cons (by decide)
        have hm : members (fuel + 1) depth seen _ = members fuel depth (seen.put k v) tail :=
          members_comma (s.newline_blank level) <| hr.gap level (by omega) hs
        rw [hp, ih (List.cons_ne_nil g fields) (by simpa using hd) hrs (by omega)] at hm
        simpa [spellFields, tail] using hm

-- What a value starts with is not passed over, and does not end a list.
theorem exists_spell (s : Spacing) (level : Nat) (h : Printable depth v) :
    ∃ c cs, spell s level v = c :: cs ∧ isBlank c = false ∧ c ≠ ']' := by
  cases h
  case null => exact ⟨'n', _, rfl, by decide⟩
  case bool b => cases b; exacts [⟨'f', _, rfl, by decide⟩, ⟨'t', _, rfl, by decide⟩]
  case int i _ =>
    have ⟨c, cs, hc, hd⟩ := exists_toString i
    refine ⟨c, cs, hc, ?_⟩
    obtain hd | rfl := hd
    case inl => exact ⟨isBlank_of_isDigit hd, by rintro rfl; simp at hd⟩
    case inr => decide
  case str t => exact ⟨'"', _, toList_quote t, by decide⟩
  case arr vs _ => cases vs <;> exact ⟨'[', _, rfl, by decide⟩
  case obj fields _ _ => cases fields <;> exact ⟨'{', _, rfl, by decide⟩

theorem exists_spellItems (s : Spacing) (level : Nat) (vs : List Json) (h : Printable depth v) :
    ∃ c cs, spellItems s level (v :: vs) = s.newline level ++ c :: cs ∧ isBlank c = false ∧
      c ≠ ']' := by
  have ⟨c, cs, hc, hn⟩ := exists_spell s level h
  cases vs
  case nil => exact ⟨c, cs, by rw [spellItems, hc], hn⟩
  case cons w vs =>
    exact ⟨c, cs ++ ',' :: spellItems s level (w :: vs), by simp [spellItems, hc], hn⟩

theorem exists_spellFields (s : Spacing) (level : Nat) (f : String × Json) (fields : Fields) :
    ∃ cs, spellFields s level (f :: fields) = s.newline level ++ '"' :: cs := by
  have ⟨body, hq, _⟩ := exists_textBody f.1
  cases fields
  case nil => exact ⟨body ++ ':' :: (s.gap ++ spell s level f.2), by simp [spellFields, hq]⟩
  case cons g fields =>
    exact ⟨body ++ ':' :: (s.gap ++ spell s level f.2 ++ ',' :: spellFields s level (g :: fields)),
      by simp [spellFields, hq]⟩

theorem reread_of_leaf (hp : Printable depth v) (hl : ∀ level, spell s level v = v.compact.toList)
    (h : ∀ fuel rest, Stops rest →
      value (fuel + 1) depth (v.compact.toList ++ rest) = .ok (v, rest)) : Reread s depth v := by
  intro level fuel rest hf hs
  have ⟨c, cs, hc, _⟩ := exists_spell s level hp
  rw [hc] at hf
  cases fuel
  case zero      => simp at hf
  case succ fuel => rw [hl, h fuel rest hs]

theorem reread_arr (h : ∀ v ∈ vs, Printable depth v) (hv : ∀ v ∈ vs, Reread s depth v) :
    Reread s (depth + 1) (arr vs) := by
  intro level fuel rest hf hs
  cases fuel
  case zero => cases vs <;> simp [spell] at hf
  case succ fuel =>
    cases vs
    case nil => rfl
    case cons v vs =>
      simp only [spell, List.length_cons, List.length_append] at hf
      have hi : items fuel depth [] (spellItems s (level + 1) (v :: vs) ++
          (s.newline level ++ ']' :: rest)) = .ok (arr (v :: vs), rest) :=
        items_spellItems (s.newline_blank level) (List.cons_ne_nil v vs) hv (by omega)
      have ⟨c, cs, hc, hb, hn⟩ := exists_spellItems s (level + 1) vs <| h v List.mem_cons_self
      rw [hc, List.append_assoc, List.cons_append, ← value_bracket (s.newline_blank _) hb hn] at hi
      simpa [spell, hc] using hi

theorem reread_obj (hd : fields.Distinct) (hv : ∀ f ∈ fields, Reread s depth f.2) :
    Reread s (depth + 1) (obj fields) := by
  intro level fuel rest hf hs
  cases fuel
  case zero => cases fields <;> simp [spell] at hf
  case succ fuel =>
    cases fields
    case nil => rfl
    case cons f fields =>
      simp only [spell, List.length_cons, List.length_append] at hf
      have hm : members fuel depth [] (spellFields s (level + 1) (f :: fields) ++
          (s.newline level ++ '}' :: rest)) = .ok (obj (f :: fields), rest) :=
        members_spellFields (s.newline_blank level) (List.cons_ne_nil f fields) hd hv (by omega)
      have ⟨cs, hc⟩ := exists_spellFields s (level + 1) f fields
      rw [hc, List.append_assoc, List.cons_append,
        ← value_brace (s.newline_blank _) (by decide) (by decide)] at hm
      simpa [spell, hc] using hm

theorem reread (h : Printable depth v) : Reread s depth v := by
  induction h
  case null      => exact reread_of_leaf .null (fun _ => rfl) fun _ _ _ => rfl
  case bool b    => exact reread_of_leaf .bool (fun _ => rfl) fun _ _ _ => by cases b <;> rfl
  case int hi    => exact reread_of_leaf (.int hi) (fun _ => rfl) fun _ _ hs => value_int hi hs
  case arr h ih  => exact reread_arr h ih
  case obj hd _ ih => exact reread_obj hd ih
  case str t =>
    refine reread_of_leaf .str (fun _ => rfl) fun fuel rest _ => ?_
    have ⟨body, hq, ht⟩ := exists_textBody t
    rw [compact, hq, List.cons_append, value, skipBlank_cons (by decide)]
    simp only [ht]
    rfl

end Spelled

section Spacing

variable {vs : List Json} {fields : Fields}

-- How a value is written on one line.
def tight : Spacing where
  newline _ := []
  gap := []
  newline_blank := by simp
  gap_blank := by simp

@[simp]
theorem tight_newline : tight.newline level = [] := rfl

@[simp]
theorem tight_gap : tight.gap = [] := rfl

-- How a value is written on many lines.
def wide : Spacing where
  newline level := (newline level).toList
  gap := [' ']
  newline_blank level := by simp [newline, isBlank]
  gap_blank := by simp [isBlank]

@[simp]
theorem wide_newline : wide.newline level = (newline level).toList := rfl

@[simp]
theorem wide_gap : wide.gap = [' '] := rfl

theorem toList_compactItems (level : Nat) (h : ∀ v ∈ vs, v.compact.toList = spell tight level v) :
    (compactItems vs).toList = spellItems tight level vs := by
  induction vs
  case nil => rfl
  case cons v vs ih =>
    have ⟨hv, hvs⟩ := List.forall_mem_cons.mp h
    cases vs
    case nil  => simp [compactItems, spellItems, hv]
    case cons => simp [compactItems, spellItems, hv, ih hvs]

theorem toList_compactFields (level : Nat)
    (h : ∀ f ∈ fields, f.2.compact.toList = spell tight level f.2) :
    (compactFields fields).toList = spellFields tight level fields := by
  induction fields
  case nil => rfl
  case cons f fields ih =>
    have ⟨hv, hvs⟩ := List.forall_mem_cons.mp h
    cases fields
    case nil  => simp [compactFields, spellFields, hv]
    case cons => simp [compactFields, spellFields, hv, ih hvs]

theorem toList_compact (h : Printable depth v) : v.compact.toList = spell tight level v := by
  induction h generalizing level
  case arr vs _ ih =>
    have hi := toList_compactItems (level + 1) fun v hv => ih v hv
    cases vs
    case nil  => rfl
    case cons => simp [compact, spell, hi]
  case obj fields _ _ ih =>
    have hi := toList_compactFields (level + 1) fun f hf => ih f hf
    cases fields
    case nil  => rfl
    case cons => simp [compact, spell, hi]
  all_goals rfl

theorem toList_prettyItems (level : Nat)
    (h : ∀ v ∈ vs, (prettyAt level v).toList = spell wide level v) :
    (prettyItems level vs).toList = spellItems wide level vs := by
  induction vs
  case nil => rfl
  case cons v vs ih =>
    have ⟨hv, hvs⟩ := List.forall_mem_cons.mp h
    cases vs
    case nil  => simp [prettyItems, spellItems, hv]
    case cons => simp [prettyItems, spellItems, hv, ih hvs]

theorem toList_prettyFields (level : Nat)
    (h : ∀ f ∈ fields, (prettyAt level f.2).toList = spell wide level f.2) :
    (prettyFields level fields).toList = spellFields wide level fields := by
  induction fields
  case nil => rfl
  case cons f fields ih =>
    have ⟨hv, hvs⟩ := List.forall_mem_cons.mp h
    cases fields
    case nil  => simp [prettyFields, spellFields, hv]
    case cons => simp [prettyFields, spellFields, hv, ih hvs]

theorem toList_prettyAt (h : Printable depth v) :
    (prettyAt level v).toList = spell wide level v := by
  induction h generalizing level
  case arr vs _ ih =>
    have hi := toList_prettyItems (level + 1) fun v hv => ih v hv
    cases vs
    case nil  => simp [prettyAt, spell]
    case cons => simp [prettyAt, spell, hi]
  case obj fields _ _ ih =>
    have hi := toList_prettyFields (level + 1) fun f hf => ih f hf
    cases fields
    case nil  => simp [prettyAt, spell]
    case cons => simp [prettyAt, spell, hi]
  all_goals rfl

end Spacing

theorem parse_spell (s : Spacing) (blanks : List Char) {text : String}
    (h : Printable depthLimit v) (ht : text.toList = spell s 0 v ++ blanks)
    (hb : ∀ c ∈ blanks, isBlank c) :
    parse text = .ok v := by
  have hs : Stops blanks := by
    rw [← List.append_nil blanks]
    exact stops_append hb <| by simp [Stops]
  have hl : 2 * (spell s 0 v).length ≤ 2 * text.toList.length + 2 := by
    rw [ht, List.length_append]
    omega
  have hv := reread h 0 _ blanks hl hs
  have he : skipBlank blanks = [] := by
    rw [← List.append_nil blanks, skipBlank_append hb]
    rfl
  rw [← ht] at hv
  simp only [parse, hv, he]

theorem parse_compact (h : Printable depthLimit v) : parse v.compact = .ok v :=
  parse_spell tight [] h (by rw [toList_compact h, List.append_nil]) (by simp)

-- A line that is printed ends, and reads as the value.
theorem parse_pretty (h : Printable depthLimit v) : parse (v.pretty ++ "\n") = .ok v :=
  parse_spell wide ['\n'] h (by simp [pretty, toList_prettyAt h]) (by simp [isBlank])

end ApiLens.Json
