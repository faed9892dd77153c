import Roster.Proofs.Text.Pieces
import Roster.Sql.Constraint

namespace Roster

theorem Text.beforeSuffix?_append (s tail : String) : beforeSuffix? tail (s ++ tail) = some s := by
  rw [beforeSuffix?, String.toList_append, List.reverse_append, dropPrefix?_append,
    Option.map_some, List.reverse_reverse, String.ofList_toList]

namespace Sql.Violation

variable (table : String)

theorem hasSuffix_append (s tail : String) : hasSuffix tail (s ++ tail) = true := by
  rw [hasSuffix, String.toList_append, List.reverse_append, List.isPrefixOf_iff_prefix]
  exact List.prefix_append _ _

theorem hasSuffix_append_append (s t tail : String) :
    hasSuffix (t ++ tail) (s ++ tail) = hasSuffix t s := by
  simp only [hasSuffix, String.toList_append, List.reverse_append]
  induction tail.toList.reverse with
  | nil => rfl
  | cons c cs ih => simpa [List.isPrefixOf] using ih

theorem hasSuffix_iff (s tail : String) :
    hasSuffix tail s = true ↔ ∃ before, s = before ++ tail := by
  rw [hasSuffix, List.isPrefixOf_iff_prefix, List.reverse_prefix]
  constructor
  · rintro ⟨before, h⟩
    exact ⟨String.ofList before, by rw [← String.toList_inj, String.toList_append,
      String.toList_ofList, h]⟩
  · rintro ⟨before, rfl⟩
    rw [String.toList_append]
    exact List.suffix_append _ _

theorem lastWord_append {word : String} (hword : ∀ c ∈ word.toList, (c == '_') = false) :
    lastWord (table ++ "_" ++ word) = word := by
  have hlist : (table ++ "_" ++ word).toList = table.toList ++ '_' :: word.toList := by
    simp [String.toList_append]
  rw [lastWord, hlist, Text.splitLast_append rfl _ hword]
  exact String.ofList_toList

theorem ofName?_key {column : String} (hcolumn : ∀ c ∈ column.toList, (c == '_') = false)
    (isReference : Bool) :
    ofName? (table ++ "_" ++ column ++ "_key") true isReference = some (.unique column) := by
  have hpkey : hasSuffix "_pkey" (table ++ "_" ++ column ++ "_key") = false := by
    simp [hasSuffix, String.toList_append, List.isPrefixOf]
  simp [ofName?, hpkey, Text.beforeSuffix?_append, lastWord_append _ hcolumn]

theorem ofName?_pkey (isReference : Bool) :
    ofName? (table ++ "_pkey") true isReference = some .primaryKey := by
  rw [ofName?, hasSuffix_append]
  rfl

theorem ofName?_fkey (column : String) : ofName? (table ++ "_" ++ column ++ "_fkey") false true =
    some (.reference (hasSuffix "_user_id" (table ++ "_" ++ column))) := by
  have hsuffix : hasSuffix "_user_id_fkey" (table ++ "_" ++ column ++ "_fkey") =
      hasSuffix "_user_id" (table ++ "_" ++ column) := by
    have htail : "_user_id_fkey" = "_user_id" ++ "_fkey" := by decide
    rw [htail, hasSuffix_append_append]
  rw [ofName?, hsuffix]
  rfl

theorem ofRefusal?_unique {r : Refusal} {column : String} (hcode : r.code = uniqueCode)
    (hcolumn : ∀ c ∈ column.toList, (c == '_') = false)
    (hname : r.constraint = table ++ "_" ++ column ++ "_key") :
    ofRefusal? r = some (.unique column) := by
  rw [ofRefusal?, hname, hcode, beq_self_eq_true, ofName?_key table hcolumn]

theorem ofRefusal?_primaryKey {r : Refusal} (hcode : r.code = uniqueCode)
    (hname : r.constraint = table ++ "_pkey") : ofRefusal? r = some .primaryKey := by
  rw [ofRefusal?, hname, hcode, beq_self_eq_true, ofName?_pkey]

theorem ofRefusal?_fkey {r : Refusal} {column : String} (hcode : r.code = referenceCode)
    (hname : r.constraint = table ++ "_" ++ column ++ "_fkey") :
    ofRefusal? r = some (.reference (hasSuffix "_user_id" (table ++ "_" ++ column))) := by
  have hunique : (referenceCode == uniqueCode) = false := by decide
  rw [ofRefusal?, hname, hcode, beq_self_eq_true, hunique, ofName?_fkey]

theorem ofRefusal?_reference {r : Refusal} (hcode : r.code = referenceCode)
    (hname : r.constraint = table ++ "_user_id_fkey") : ofRefusal? r = some (.reference true) := by
  have hsplit : table ++ "_user_id_fkey" = table ++ "_" ++ "user_id" ++ "_fkey" := by
    simp only [String.append_assoc]
    rfl
  have huser : table ++ "_" ++ "user_id" = table ++ "_user_id" := by
    simp only [String.append_assoc]
    rfl
  rw [ofRefusal?_fkey table hcode (hname.trans hsplit), huser, hasSuffix_append]

/-- What is told from the names of constraints, whatever the tables and columns are called. -/
structure NamingScheme : Prop where
  key : ∀ table column isReference, '_' ∉ column.toList →
    ofName? (table ++ "_" ++ column ++ "_key") true isReference = some (.unique column)
  primaryKey : ∀ table isReference, ofName? (table ++ "_pkey") true isReference = some .primaryKey
  foreignKey : ∀ table column, ∃ toUser,
    ofName? (table ++ "_" ++ column ++ "_fkey") false true = some (.reference toUser) ∧
      (toUser = true ↔ ∃ before, table ++ "_" ++ column = before ++ "_user_id")
  neither : ∀ name, ofName? name false false = none

theorem namingScheme : NamingScheme where
  key table _ isReference hcolumn :=
    ofName?_key table (fun _ hc ↦ beq_false_of_ne fun h ↦ hcolumn (h ▸ hc)) isReference
  primaryKey := ofName?_pkey
  foreignKey table column := ⟨_, ofName?_fkey table column, hasSuffix_iff _ _⟩
  neither _ := rfl

theorem ofRefusal?_of_not_breach {r : Refusal} (hunique : r.code ≠ uniqueCode)
    (hreference : r.code ≠ referenceCode) : ofRefusal? r = none := by
  rw [ofRefusal?, beq_false_of_ne hunique, beq_false_of_ne hreference]
  rfl

end Sql.Violation

end Roster
