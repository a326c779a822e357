import LspAdapter.Proofs.Json.Scalars
/-!
# Compact text read back

A value whose numbers are integers of at most 64 bits, and that is not nested too deep,
is read back from its compact text as it was: with the same fields in the same order, and
nothing after it.  The text holds no raw control character, and no two such values share
one.

Whatever stands inside an array or an object is read back before what follows it, which
is all that the lists of items and of fields need (`readMoreItems_write`,
`readMoreFields_write`).
-/

namespace LspAdapter.Json

/-- Whether a value can be read again where arrays and objects may be nested less deep
than some limit. -/
inductive Value.Fits : Nat → Value → Prop
  | null (limit : Nat) : Fits limit .null
  | bool (limit : Nat) (b : Bool) : Fits limit (.bool b)
  | integer (limit : Nat) (n : Int) : -0x8000000000000000 ≤ n → n < 0x10000000000000000 →
      Fits limit (.number (.integer n))
  | text (limit : Nat) (s : String) : Fits limit (.text s)
  | array (limit : Nat) (items : List Value) : 0 < limit → (∀ v ∈ items, Fits limit v) →
      Fits (limit + 1) (.array items)
  | object (limit : Nat) (fields : Fields) : 0 < limit → (∀ f ∈ fields, Fits limit f.2) →
      Fits (limit + 1) (.object fields)

/-! ## Text of lists -/

theorem writeMoreItems_cons (v : Value) (vs : List Value) :
    Value.writeMoreItems (v :: vs) = ',' :: Value.writeItems (v :: vs) := by
  rw [Value.writeMoreItems, Value.writeItems, List.cons_append]

theorem writeMoreFields_cons (name : String) (v : Value) (fields : Fields) :
    Value.writeMoreFields ((name, v) :: fields) =
      ',' :: Value.writeFields ((name, v) :: fields) := by
  rw [Value.writeMoreFields, Value.writeFields, List.cons_append, List.cons_append]

/-- A field in front of others begins with the quote that opens its name. -/
theorem writeFields_append (name : String) (v : Value) (fields : Fields) (rest : List Char) :
    Value.writeFields ((name, v) :: fields) ++ rest =
      '"' :: (name.toList.flatMap escapeChar ++
        '"' :: ':' :: (v.write ++ (Value.writeMoreFields fields ++ rest))) := by
  rw [Value.writeFields, List.append_assoc, List.append_assoc, List.cons_append,
    writeString_append]

theorem endsNumber_nil : EndsNumber [] := by
  intro c hc
  cases hc

theorem endsNumber_cons {c : Char} (h : c ∈ [',', ']', '}']) (cs : List Char) :
    EndsNumber (c :: cs) := by
  intro d hd
  obtain rfl := Option.some.inj hd
  simp only [List.mem_cons, List.not_mem_nil, or_false] at h
  rcases h with rfl | rfl | rfl <;> decide

theorem endsNumber_moreItems (items : List Value) (rest : List Char) :
    EndsNumber (Value.writeMoreItems items ++ ']' :: rest) := by
  cases items with
  | nil => exact endsNumber_cons (by decide) rest
  | cons v vs => exact endsNumber_cons (by decide) _

theorem endsNumber_moreFields (fields : Fields) (rest : List Char) :
    EndsNumber (Value.writeMoreFields fields ++ '}' :: rest) := by
  cases fields with
  | nil => exact endsNumber_cons (by decide) rest
  | cons f fs => exact endsNumber_cons (by decide) _

/-! ## Values inside others -/

/-- Whether a value is read back from its text, given fuel for each character of it. -/
structure ReadsBack (depth : Nat) (v : Value) : Prop where
  /-- The text does not begin like the end of an array. -/
  head : ∃ c cs, v.write = c :: cs ∧ isGap c = false ∧ c ≠ ']'
  read (fuel : Nat) (rest : List Char) : 4 * v.write.length ≤ fuel → EndsNumber rest →
    readValue fuel depth (v.write ++ rest) = .ok (v, rest)

variable {depth : Nat} {v : Value}

theorem skipGap_cons {c : Char} (h : isGap c = false) (cs : List Char) :
    skipGap (c :: cs) = c :: cs :=
  List.dropWhile_cons_of_neg (ne_true_of_eq_false h)

theorem ReadsBack.skipGap_append (h : ReadsBack depth v) (rest : List Char) :
    skipGap (v.write ++ rest) = v.write ++ rest := by
  obtain ⟨c, cs, hwrite, hgap, -⟩ := h.head
  rw [hwrite]
  exact skipGap_cons hgap _

theorem ReadsBack.length_pos (h : ReadsBack depth v) : 0 < v.write.length := by
  obtain ⟨c, cs, hwrite, -, -⟩ := h.head
  rw [hwrite]
  exact Nat.succ_pos _

theorem ReadsBack.append_ne_nil (h : ReadsBack depth v) (rest : List Char) :
    v.write ++ rest ≠ [] := by
  obtain ⟨c, cs, hwrite, -, -⟩ := h.head
  simp [hwrite]

theorem ReadsBack.append_ne_close (h : ReadsBack depth v) (rest cs : List Char) :
    v.write ++ rest ≠ ']' :: cs := by
  obtain ⟨c, cs', hwrite, -, hne⟩ := h.head
  rw [hwrite]
  exact fun heq => hne (List.cons.inj heq).1

theorem readMoreItems_write {items : List Value} (h : ∀ v ∈ items, ReadsBack depth v)
    (fuel : Nat) (rest : List Char) (hfuel : 4 * (Value.writeMoreItems items).length < fuel) :
    readMoreItems fuel depth (Value.writeMoreItems items ++ ']' :: rest) = .ok (items, rest) := by
  obtain ⟨fuel, rfl⟩ : ∃ f, fuel = f + 1 := ⟨fuel - 1, by omega⟩
  induction items generalizing fuel with
  | nil => rfl
  | cons v vs ih =>
      obtain ⟨hv, hvs⟩ := List.forall_mem_cons.1 h
      have hpos := hv.length_pos
      rw [writeMoreItems_cons, Value.writeItems, List.length_cons, List.length_append] at hfuel
      obtain ⟨fuel, rfl⟩ : ∃ f, fuel = f + 1 := ⟨fuel - 1, by omega⟩
      have hread := hv.read (fuel + 1) (Value.writeMoreItems vs ++ ']' :: rest) (by omega)
        (endsNumber_moreItems vs rest)
      have hmore := ih hvs fuel (by omega)
      rw [writeMoreItems_cons, Value.writeItems, List.cons_append, List.append_assoc,
        readMoreItems, skipGap_cons (by decide)]
      simp only [hv.skipGap_append]
      split
      next hnil => exact absurd hnil (hv.append_ne_nil _)
      next hclose => exact absurd hclose (hv.append_ne_close _ _)
      next =>
        rw [hread]
        show Except.bind (readMoreItems (fuel + 1) depth _) _ = _
        rw [hmore]
        rfl

theorem readItems_write {items : List Value} (h : ∀ v ∈ items, ReadsBack depth v)
    (fuel : Nat) (rest : List Char) (hfuel : 4 * (Value.writeItems items).length < fuel) :
    readItems fuel depth (Value.writeItems items ++ ']' :: rest) = .ok (items, rest) := by
  obtain ⟨fuel, rfl⟩ : ∃ f, fuel = f + 1 := ⟨fuel - 1, by omega⟩
  cases items with
  | nil => rfl
  | cons v vs =>
      obtain ⟨hv, hvs⟩ := List.forall_mem_cons.1 h
      have hpos := hv.length_pos
      rw [Value.writeItems, List.length_append] at hfuel
      have hread := hv.read fuel (Value.writeMoreItems vs ++ ']' :: rest) (by omega)
        (endsNumber_moreItems vs rest)
      have hmore := readMoreItems_write hvs fuel rest (by omega)
      rw [Value.writeItems, List.append_assoc, readItems]
      simp only [hv.skipGap_append]
      split
      next hnil => exact absurd hnil (hv.append_ne_nil _)
      next hclose => exact absurd hclose (hv.append_ne_close _ _)
      next =>
        rw [hread]
        show Except.bind (readMoreItems fuel depth _) _ = _
        rw [hmore]
        rfl

theorem ReadsBack.readFieldValue_write (h : ReadsBack depth v) (fuel : Nat) {rest : List Char}
    (hfuel : 4 * v.write.length < fuel) (hrest : EndsNumber rest) :
    readFieldValue fuel depth (':' :: (v.write ++ rest)) = .ok (v, rest) := by
  obtain ⟨fuel, rfl⟩ : ∃ f, fuel = f + 1 := ⟨fuel - 1, by omega⟩
  rw [readFieldValue, skipGap_cons (by decide)]
  exact h.read fuel rest (by omega) hrest

theorem readMoreFields_write {fields : Fields} (h : ∀ f ∈ fields, ReadsBack depth f.2)
    (fuel : Nat) (rest : List Char) (hfuel : 4 * (Value.writeMoreFields fields).length < fuel) :
    readMoreFields fuel depth (Value.writeMoreFields fields ++ '}' :: rest) =
      .ok (fields, rest) := by
  obtain ⟨fuel, rfl⟩ : ∃ f, fuel = f + 1 := ⟨fuel - 1, by omega⟩
  induction fields generalizing fuel with
  | nil => rfl
  | cons f fs ih =>
      obtain ⟨name, v⟩ := f
      obtain ⟨hfield, hfs⟩ := List.forall_mem_cons.1 h
      have hv : ReadsBack depth v := hfield
      rw [writeMoreFields_cons, Value.writeFields, List.length_cons, List.length_append,
        List.length_append, List.length_cons] at hfuel
      obtain ⟨fuel, rfl⟩ : ∃ f, fuel = f + 1 := ⟨fuel - 1, by omega⟩
      have hread := hv.readFieldValue_write (fuel + 1) (by omega)
        (endsNumber_moreFields fs rest)
      have hmore := ih hfs fuel (by omega)
      rw [writeMoreFields_cons, List.cons_append, writeFields_append, readMoreFields,
        skipGap_cons (by decide)]
      simp only [skipGap_cons (show isGap '"' = false by decide)]
      rw [readString_writeString]
      show Except.bind (readFieldValue (fuel + 1) depth _) _ = _
      rw [hread]
      show Except.bind (readMoreFields (fuel + 1) depth _) _ = _
      rw [hmore]
      rfl

theorem readFields_write {fields : Fields} (h : ∀ f ∈ fields, ReadsBack depth f.2)
    (fuel : Nat) (rest : List Char) (hfuel : 4 * (Value.writeFields fields).length < fuel) :
    readFields fuel depth (Value.writeFields fields ++ '}' :: rest) = .ok (fields, rest) := by
  obtain ⟨fuel, rfl⟩ : ∃ f, fuel = f + 1 := ⟨fuel - 1, by omega⟩
  cases fields with
  | nil => rfl
  | cons f fs =>
      obtain ⟨name, v⟩ := f
      obtain ⟨hfield, hfs⟩ := List.forall_mem_cons.1 h
      have hv : ReadsBack depth v := hfield
      rw [Value.writeFields, List.length_append, List.length_append, List.length_cons] at hfuel
      have hread := hv.readFieldValue_write fuel (by omega)
        (endsNumber_moreFields fs rest)
      have hmore := readMoreFields_write hfs fuel rest (by omega)
      rw [writeFields_append, readFields, skipGap_cons (by decide)]
      simp only
      rw [readString_writeString]
      show Except.bind (readFieldValue fuel depth _) _ = _
      rw [hread]
      show Except.bind (readMoreFields fuel depth _) _ = _
      rw [hmore]
      rfl

/-! ## Values -/

theorem readsBack_integer {n : Int} (hlow : -0x8000000000000000 ≤ n)
    (hhigh : n < 0x10000000000000000) : ReadsBack depth (.number (.integer n)) := by
  obtain ⟨c, cs, hwrite, hc⟩ := exists_head_integerText n
  have hstarts : [' ', '\n', '\t', '\r', 'n', 't', 'f', '"', '[', ']', '{'].all
      (fun d => !(d.isDigit || d = '-')) = true := by
    decide
  have hother : c ∉ [' ', '\n', '\t', '\r', 'n', 't', 'f', '"', '[', ']', '{'] := by
    intro hmem
    have hstart := List.all_eq_true.1 hstarts c hmem
    rw [hc] at hstart
    cases hstart
  have hgap : isGap c = false := by
    simp only [List.mem_cons, not_or] at hother
    simp [isGap, hother]
  refine ⟨⟨c, cs, hwrite, hgap, fun h => hother (by simp [h])⟩, fun fuel rest hfuel hrest => ?_⟩
  have hlength : (Value.number (.integer n)).write.length = cs.length + 1 := by
    rw [Value.write, Number.write, hwrite, List.length_cons]
  obtain ⟨fuel, rfl⟩ : ∃ f, fuel = f + 1 := ⟨fuel - 1, by omega⟩
  have hread := readNumber_integerText hlow hhigh hrest
  rw [Value.write, Number.write]
  rw [hwrite, List.cons_append] at hread ⊢
  rw [readValue, skipGap_cons hgap]
  split
  case h_8 heq =>
    obtain ⟨rfl, rfl⟩ := List.cons.inj heq
    rw [if_pos hc, hread]
    rfl
  case h_1 heq => cases heq
  all_goals
    rename_i heq
    exact absurd (List.cons.inj heq).1 (fun h => hother (by simp [h]))

theorem Value.Fits.readsBack {limit : Nat} (h : v.Fits limit) : ReadsBack limit v := by
  have hfuel : ∀ {fuel n : Nat}, 4 * (n + 1) ≤ fuel → ∃ f, fuel = f + 1 := by
    intro fuel n h
    exact ⟨fuel - 1, by omega⟩
  induction h with
  | null limit =>
      refine ⟨⟨'n', _, rfl, by decide, by decide⟩, fun fuel rest h _ => ?_⟩
      obtain ⟨fuel, rfl⟩ := hfuel h
      rfl
  | bool limit b =>
      cases b with
      | false =>
          refine ⟨⟨'f', _, rfl, by decide, by decide⟩, fun fuel rest h _ => ?_⟩
          obtain ⟨fuel, rfl⟩ := hfuel h
          rfl
      | true =>
          refine ⟨⟨'t', _, rfl, by decide, by decide⟩, fun fuel rest h _ => ?_⟩
          obtain ⟨fuel, rfl⟩ := hfuel h
          rfl
  | integer limit n hlow hhigh => exact readsBack_integer hlow hhigh
  | text limit s =>
      refine ⟨⟨'"', _, rfl, by decide, by decide⟩, fun fuel rest h _ => ?_⟩
      obtain ⟨fuel, rfl⟩ := hfuel h
      rw [Value.write, writeString_append, readValue, skipGap_cons (by decide)]
      simp only
      rw [readString_writeString]
      rfl
  | array limit items hlimit _ ih =>
      refine ⟨⟨'[', _, rfl, by decide, by decide⟩, fun fuel rest h _ => ?_⟩
      obtain ⟨fuel, rfl⟩ := hfuel h
      rw [Value.write, List.cons_append, List.length_cons, List.length_append] at h
      have hread := readItems_write ih fuel rest (by omega)
      rw [Value.write, List.cons_append, List.cons_append, List.append_assoc,
        List.singleton_append, readValue, skipGap_cons (by decide)]
      simp only
      rw [if_neg (by omega), Nat.add_sub_cancel, hread]
      rfl
  | object limit fields hlimit _ ih =>
      refine ⟨⟨'{', _, rfl, by decide, by decide⟩, fun fuel rest h _ => ?_⟩
      obtain ⟨fuel, rfl⟩ := hfuel h
      rw [Value.write, List.cons_append, List.length_cons, List.length_append] at h
      have hread := readFields_write ih fuel rest (by omega)
      rw [Value.write, List.cons_append, List.cons_append, List.append_assoc,
        List.singleton_append, readValue, skipGap_cons (by decide)]
      simp only
      rw [if_neg (by omega), Nat.add_sub_cancel, hread]
      rfl

/-! ## Control characters -/

theorem shown_moreItems {items : List Value} (h : ∀ v ∈ items, Shown v.write) :
    Shown (Value.writeMoreItems items) := by
  induction items with
  | nil => nofun
  | cons v vs ih =>
      obtain ⟨hv, hvs⟩ := List.forall_mem_cons.1 h
      rw [Value.writeMoreItems, Shown, List.forall_mem_append, List.forall_mem_cons]
      exact ⟨⟨by decide, hv⟩, ih hvs⟩

theorem shown_items {items : List Value} (h : ∀ v ∈ items, Shown v.write) :
    Shown (Value.writeItems items) := by
  cases items with
  | nil => nofun
  | cons v vs =>
      have hmore := shown_moreItems h
      rw [writeMoreItems_cons] at hmore
      exact (List.forall_mem_cons.1 hmore).2

theorem shown_moreFields {fields : Fields} (h : ∀ f ∈ fields, Shown f.2.write) :
    Shown (Value.writeMoreFields fields) := by
  induction fields with
  | nil => nofun
  | cons f fs ih =>
      obtain ⟨hv, hfs⟩ := List.forall_mem_cons.1 h
      rw [Value.writeMoreFields, Shown, List.forall_mem_append, List.forall_mem_append,
        List.forall_mem_cons, List.forall_mem_cons]
      exact ⟨⟨⟨by decide, shown_writeString f.1⟩, by decide, hv⟩, ih hfs⟩

theorem shown_fields {fields : Fields} (h : ∀ f ∈ fields, Shown f.2.write) :
    Shown (Value.writeFields fields) := by
  cases fields with
  | nil => nofun
  | cons f fs =>
      have hmore := shown_moreFields h
      rw [writeMoreFields_cons] at hmore
      exact (List.forall_mem_cons.1 hmore).2

theorem Value.Fits.shown {limit : Nat} (h : v.Fits limit) : Shown v.write := by
  have henclosed : ∀ {c d : Char} {cs : List Char}, 0x20 ≤ c.toNat → 0x20 ≤ d.toNat →
      Shown cs → Shown (c :: cs ++ [d]) := by
    intro c d cs hc hd hcs
    rw [Shown, List.forall_mem_append, List.forall_mem_cons, List.forall_mem_singleton]
    exact ⟨⟨hc, hcs⟩, hd⟩
  induction h with
  | null limit => decide
  | bool limit b => cases b <;> decide
  | integer limit n _ _ => exact shown_integerText n
  | text limit s => exact shown_writeString s
  | array limit items _ _ ih => exact henclosed (by decide) (by decide) (shown_items ih)
  | object limit fields _ _ ih => exact henclosed (by decide) (by decide) (shown_fields ih)

/-! ## Whole texts -/

/-- The compact text of a value is read as that value, up to its end. -/
theorem readFront_compact (h : v.Fits depthLimit) : readFront v.compact = .ok (v, []) := by
  have hvalue := h.readsBack.read (v.write.length * 4 + 4) [] (by omega) endsNumber_nil
  rw [List.append_nil] at hvalue
  rw [readFront, Value.compact, String.toList_ofList, hvalue]
  rfl

theorem read_compact (h : v.Fits depthLimit) : read v.compact = .ok v := by
  rw [read, readFront_compact h]
  rfl

theorem shown_compact {limit : Nat} (h : v.Fits limit) : Shown v.compact.toList := by
  rw [Value.compact, String.toList_ofList]
  exact h.shown

theorem compact_inj {w : Value} (hv : v.Fits depthLimit) (hw : w.Fits depthLimit) :
    v.compact = w.compact ↔ v = w := by
  constructor
  · intro h
    have hread := read_compact hv
    rw [h, read_compact hw] at hread
    exact (Except.ok.inj hread).symm
  · rintro rfl
    rfl

end LspAdapter.Json
