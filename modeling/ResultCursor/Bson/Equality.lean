import ResultCursor.Bson.Value

/-! Equality of BSON values can be decided: `same` compares two values, and it answers true for
equal ones only. -/

namespace ResultCursor.Bson

mutual

def same : Bson → Bson → Bool
  | double a, double b => a == b
  | int32 a, int32 b => a == b
  | int64 a, int64 b => a == b
  | string a, string b => a == b
  | array a, array b => sameItems a b
  | document a, document b => sameFields a b
  | bool a, bool b => a == b
  | null, null => true
  | undefined, undefined => true
  | minKey, minKey => true
  | maxKey, maxKey => true
  | symbol a, symbol b => a == b
  | code a, code b => a == b
  | objectId a, objectId b => a == b
  | timestamp a, timestamp b => a == b
  | other a, other b => a == b
  | _, _ => false

def sameItems : List Bson → List Bson → Bool
  | [], [] => true
  | a :: as, b :: bs => same a b && sameItems as bs
  | _, _ => false

def sameFields : List (String × Bson) → List (String × Bson) → Bool
  | [], [] => true
  | (m, a) :: as, (n, b) :: bs => m == n && same a b && sameFields as bs
  | _, _ => false

end

mutual

theorem eq_of_same : (a b : Bson) → same a b = true → a = b
  | .array a, b => by
    cases b <;> simp only [same, Bool.false_eq_true, false_implies, array.injEq]
    exact items_eq_of_same a _
  | .document a, b => by
    cases b <;> simp only [same, Bool.false_eq_true, false_implies, document.injEq]
    exact fields_eq_of_same a _
  | .double a, b | .int32 a, b | .int64 a, b | .string a, b | .bool a, b | .null, b
  | .undefined, b | .minKey, b | .maxKey, b | .symbol a, b | .code a, b | .objectId a, b
  | .timestamp a, b | .other a, b => by
    cases b <;> simp [same]

theorem items_eq_of_same : (a b : List Bson) → sameItems a b = true → a = b
  | [], b => by cases b <;> simp [sameItems]
  | a :: as, b => by
    cases b with
    | nil => simp [sameItems]
    | cons b bs =>
      simp only [sameItems, Bool.and_eq_true, List.cons.injEq, and_imp]
      exact fun h t => ⟨eq_of_same a b h, items_eq_of_same as bs t⟩

theorem fields_eq_of_same : (a b : List (String × Bson)) → sameFields a b = true → a = b
  | [], b => by cases b <;> simp [sameFields]
  | (m, a) :: as, b => by
    cases b with
    | nil => simp [sameFields]
    | cons f bs =>
      obtain ⟨n, b⟩ := f
      simp only [sameFields, Bool.and_eq_true, beq_iff_eq, List.cons.injEq, Prod.mk.injEq,
        and_imp]
      exact fun hn h t => ⟨⟨hn, eq_of_same a b h⟩, fields_eq_of_same as bs t⟩

end

mutual

theorem same_self : (a : Bson) → same a a = true
  | .array a => by simpa only [same] using sameItems_self a
  | .document a => by simpa only [same] using sameFields_self a
  | .double _ | .int32 _ | .int64 _ | .string _ | .bool _ | .null | .undefined | .minKey
  | .maxKey | .symbol _ | .code _ | .objectId _ | .timestamp _ | .other _ => by simp [same]

theorem sameItems_self : (a : List Bson) → sameItems a a = true
  | [] => rfl
  | a :: as => by simp [sameItems, same_self a, sameItems_self as]

theorem sameFields_self : (a : List (String × Bson)) → sameFields a a = true
  | [] => rfl
  | (_, a) :: as => by simp [sameFields, same_self a, sameFields_self as]

end

instance : DecidableEq Bson := fun a b =>
  if h : same a b = true then .isTrue (eq_of_same a b h)
  else .isFalse fun e => h (e ▸ same_self a)

end ResultCursor.Bson
