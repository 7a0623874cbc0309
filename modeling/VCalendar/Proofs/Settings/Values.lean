import VCalendar.Value

/-!
# Setting values

What the readings of a value can refuse. Main statements: a value has no literal exactly if
an integer of too many digits stands in it, and such a value counts as true; only the two
infinities are read as infinite.
-/

namespace VCalendar.Value

/-! ## Values without a literal -/

/-- An integer is a value or stands somewhere in it. -/
inductive Holds (i : Int) : Value → Prop
  | here : Holds i (.int i)
  | item {items : List Value} {v : Value} : v ∈ items → Holds i v → Holds i (.list items)
  | key {entries : List (Value × Value)} {k v : Value} :
      (k, v) ∈ entries → Holds i k → Holds i (.map entries)
  | value {entries : List (Value × Value)} {k v : Value} :
      (k, v) ∈ entries → Holds i v → Holds i (.map entries)

/-- A value holds an integer of more digits than are written. -/
def Oversized (v : Value) : Prop :=
  ∃ i, Holds i v ∧ Nat.pow 10 Number.maxDigits ≤ i.natAbs

theorem oversized_list_iff {items : List Value} :
    Oversized (.list items) ↔ ∃ v ∈ items, v.Oversized := by
  constructor
  · rintro ⟨i, hi, hlarge⟩
    cases hi with
    | item hmem hi => exact ⟨_, hmem, i, hi, hlarge⟩
  · rintro ⟨v, hmem, i, hi, hlarge⟩
    exact ⟨i, .item hmem hi, hlarge⟩

theorem oversized_map_iff {entries : List (Value × Value)} :
    Oversized (.map entries) ↔ ∃ entry ∈ entries, entry.1.Oversized ∨ entry.2.Oversized := by
  constructor
  · rintro ⟨i, hi, hlarge⟩
    cases hi with
    | key hmem hi => exact ⟨_, hmem, Or.inl ⟨i, hi, hlarge⟩⟩
    | value hmem hi => exact ⟨_, hmem, Or.inr ⟨i, hi, hlarge⟩⟩
  · rintro ⟨⟨k, v⟩, hmem, ⟨i, hi, hlarge⟩ | ⟨i, hi, hlarge⟩⟩
    · exact ⟨i, .key hmem hi, hlarge⟩
    · exact ⟨i, .value hmem hi, hlarge⟩

mutual

/-- The values that are not written are those with an integer of too many digits. -/
theorem isWritable_eq_false_iff : ∀ v : Value, v.isWritable = false ↔ v.Oversized
  | .null | .bool _ | .float _ | .text _ | .foreign _ => iff_of_false nofun nofun
  | .int i => by
      rw [isWritable, decide_eq_false_iff_not, Nat.not_lt]
      constructor
      · intro hlarge
        exact ⟨i, .here, hlarge⟩
      · rintro ⟨_, ⟨⟩, hlarge⟩
        exact hlarge
  | .list items => by
      rw [isWritable, areItemsWritable_eq_false_iff items, oversized_list_iff]
  | .map entries => by
      rw [isWritable, areEntriesWritable_eq_false_iff entries, oversized_map_iff]

theorem areItemsWritable_eq_false_iff :
    ∀ items : List Value, areItemsWritable items = false ↔ ∃ v ∈ items, v.Oversized
  | [] => iff_of_false nofun (by simp)
  | v :: rest => by
      rw [areItemsWritable, Bool.and_eq_false_iff, isWritable_eq_false_iff v,
        areItemsWritable_eq_false_iff rest]
      simp only [List.mem_cons, exists_eq_or_imp]

theorem areEntriesWritable_eq_false_iff :
    ∀ entries : List (Value × Value), areEntriesWritable entries = false ↔
      ∃ entry ∈ entries, entry.1.Oversized ∨ entry.2.Oversized
  | [] => iff_of_false nofun (by simp)
  | (k, v) :: rest => by
      rw [areEntriesWritable, Bool.and_eq_false_iff, Bool.and_eq_false_iff,
        isWritable_eq_false_iff k, isWritable_eq_false_iff v, areEntriesWritable_eq_false_iff rest]
      simp only [List.mem_cons, exists_eq_or_imp]

end

/-! ## Infinite values -/

/-- Only the two infinities are read as infinite. -/
theorem toIntReading_eq_infinite_iff {v : Value} :
    v.toIntReading = .infinite ↔ ∃ negative, v = .float (.infinite negative) := by
  have hoption : ∀ i? : Option Int, IntReading.ofOption i? ≠ .infinite := by
    rintro (_ | i) h <;> cases h
  constructor
  · intro h
    unfold toIntReading at h
    split at h
    · cases h
    · cases h
    · exact ⟨_, rfl⟩
    · exact absurd h (hoption _)
    · exact absurd h (hoption _)
    · exact absurd h (hoption _)
    · cases h
    · cases h
    · cases h
  · rintro ⟨negative, rfl⟩
    rfl

end VCalendar.Value
