import Mathlib
import Commissioner.Proofs.Text.Fields
import Commissioner.Text.Json

/-!
# What a JSON object shows of its fields

The fields of an object stand between commas. A number at its front ends at the first comma
(`Json.number_of_object`), and a text at its end that nothing is escaped in starts at the last
quote but one (`Json.content_of_object`), whatever the fields between them hold. So both can be
told from the object as it is written.
-/

set_option autoImplicit false

namespace Commissioner.Json

/-- A field as it stands in an object. -/
def fieldChars (field : String × Value) : List Char :=
  (string field.1).toList ++ ':' :: field.2.written.toList

theorem toList_object (fields : List (String × Value)) :
    (object fields).toList = '\x7b' :: [','].intercalate (fields.map fieldChars) ++ ['\x7d'] := by
  have each : (String.toList ∘ fun field : String × Value =>
      string field.1 ++ ":" ++ field.2.written) = fieldChars := by
    funext field
    simp only [Function.comp_apply, String.toList_append, fieldChars, List.append_assoc]
    rfl
  simp only [object, String.toList_append, String.toList_intercalate, List.map_map, each]
  rfl

theorem intercalate_concat (separator last : List Char) {runs : List (List Char)}
    (some : runs ≠ []) :
    separator.intercalate (runs ++ [last]) = separator.intercalate runs ++ separator ++ last := by
  induction runs with
  | nil => exact absurd rfl some
  | cons run runs ih =>
      cases runs with
      | nil =>
          simp only [List.singleton_append, List.intercalate_cons_cons, List.intercalate_singleton]
      | cons next runs =>
          rw [List.cons_append, List.cons_append, List.intercalate_cons_cons, ← List.cons_append,
            ih (List.cons_ne_nil _ _), List.intercalate_cons_cons]
          simp only [List.append_assoc]

/-! ## The first field -/

/-- The first field ends at a comma when there are others. -/
theorem exists_object_cons (field : String × Value) {fields : List (String × Value)}
    (some : fields ≠ []) :
    ∃ behind, (object (field :: fields)).toList = '\x7b' :: fieldChars field ++ ',' :: behind := by
  obtain ⟨next, fields, rfl⟩ := List.exists_cons_of_ne_nil some
  rw [toList_object, List.map_cons, List.map_cons, List.intercalate_cons_cons]
  exact ⟨[','].intercalate (fieldChars next :: fields.map fieldChars) ++ ['\x7d'], by
    simp only [List.append_assoc, List.cons_append, List.nil_append]⟩

theorem not_mem_repr {c : Char} (other : c.isDigit = false) (n : Nat) : c ∉ n.repr.toList := by
  intro member
  rw [Nat.toList_repr] at member
  exact Bool.false_ne_true
    (other.symm.trans (Nat.isDigit_of_mem_toDigits (by decide) (by decide) member))

/-- **A number in front of other fields can be told from the object.** -/
theorem number_of_object {name : String} {first second : Nat}
    {fields others : List (String × Value)} (some : fields ≠ []) (someToo : others ≠ [])
    (same : object ((name, .number first) :: fields) = object ((name, .number second) :: others)) :
    first = second := by
  obtain ⟨behind, written⟩ := exists_object_cons (name, .number first) some
  obtain ⟨rest, writtenToo⟩ := exists_object_cons (name, .number second) someToo
  rw [same] at written
  have cut := written.symm.trans writtenToo
  simp only [fieldChars, Value.written, List.cons_append, List.append_assoc, List.cons.injEq,
    List.append_cancel_left_eq, true_and] at cut
  have none : ∀ n : Nat, n.repr.toList.count ',' = 0 := fun n =>
    List.count_eq_zero.mpr (not_mem_repr (by decide) n)
  have digits := (Fields.cut_unique cut ((none first).trans (none second).symm)).1
  exact Nat.repr_inj.mp (String.toList_inj.mp digits)

/-! ## The last field -/

/-- The last field starts at a comma when there are others. -/
theorem exists_object_concat (field : String × Value) {fields : List (String × Value)}
    (some : fields ≠ []) :
    ∃ front, (object (fields ++ [field])).toList =
      front ++ ',' :: fieldChars field ++ ['\x7d'] := by
  have runs : fields.map fieldChars ≠ [] := fun none => some (List.map_eq_nil_iff.mp none)
  rw [toList_object, List.map_append, List.map_singleton, intercalate_concat _ _ runs]
  exact ⟨'\x7b' :: [','].intercalate (fields.map fieldChars), by
    simp only [List.append_assoc, List.cons_append, List.nil_append]⟩

/-- A text in which nothing is escaped stands in its quotes as it is. -/
theorem toList_string_of_plain {content : String}
    (plain : ∀ c ∈ content.toList, escape c = [c]) :
    (string content).toList = '"' :: content.toList ++ ['"'] := by
  have itself : content.toList.flatMap escape = content.toList := by
    rw [List.flatMap_congr plain, List.flatMap_singleton']
  rw [string, String.toList_ofList, itself]

/-- **A text behind other fields in which nothing is escaped can be told from the object.** -/
theorem content_of_object {name label first second : String}
    {fields others : List (String × Value)} (some : fields ≠ []) (someToo : others ≠ [])
    (plain : ∀ c ∈ first.toList, escape c = [c]) (plainToo : ∀ c ∈ second.toList, escape c = [c])
    (same : object (fields ++ [(name, .text first)]) = object (others ++ [(label, .text second)])) :
    first = second := by
  obtain ⟨front, written⟩ := exists_object_concat (name, .text first) some
  obtain ⟨before, writtenToo⟩ := exists_object_concat (label, .text second) someToo
  rw [same] at written
  have cut := congrArg List.reverse (written.symm.trans writtenToo)
  simp only [fieldChars, Value.written, toList_string_of_plain plain,
    toList_string_of_plain plainToo, List.reverse_append, List.reverse_cons, List.reverse_nil,
    List.append_assoc, List.cons_append, List.nil_append, List.cons.injEq, true_and] at cut
  -- Seen from the end, the text reaches up to its first quote.
  have none : ∀ content : String, (∀ c ∈ content.toList, escape c = [c]) →
      content.toList.reverse.count '"' = 0 := by
    intro content plain
    rw [List.count_eq_zero, List.mem_reverse]
    intro quote
    cases plain '"' quote
  have found := (Fields.cut_unique cut ((none first plain).trans (none second plainToo).symm)).1
  exact String.toList_inj.mp (List.reverse_inj.mp found)

end Commissioner.Json
