import Sigmascope.Library.DateTime
import Sigmascope.Library.Json

/-!
Validation against a schema that is itself a JSON value, for the assertions of the 2020-12
vocabulary that ask for types, constants, members and items. Formats are asserted, and
annotations hold of every value. The order of the members of an object does not matter.
-/

namespace Sigmascope.Library.Json

set_option autoImplicit false

/-- `type` -/
def hasType (name : String) : Json → Bool
  | .bool _ => name == "boolean"
  | .string _ => name == "string"
  | .array _ => name == "array"
  | .object _ => name == "object"

/-- The same string or the same truth value; other constants are not compared. -/
def sameScalar : Json → Json → Bool
  | .bool first, .bool second => first == second
  | .string first, .string second => first == second
  | _, _ => false

/-- `required`, which says nothing about a value that is no object. -/
def hasMembers (names : List Json) : Json → Bool
  | .object members =>
      names.all fun name => name.text.any fun name => (members.lookup name).isSome
  | _ => true

/-- `format` -/
def hasFormat (name : String) : Json → Bool
  | .string text => name != "date-time" || DateTime.isDateTime text.toList
  | _ => true

/-- A keyword whose argument is not a schema; the other ones are annotations. -/
def plainHolds (keyword : String) (argument value : Json) : Bool :=
  if keyword = "type" then argument.text.any fun name => hasType name value
  else if keyword = "const" then sameScalar argument value
  else if keyword = "enum" then (argument.items.getD []).any fun item => sameScalar item value
  else if keyword = "required" then hasMembers (argument.items.getD []) value
  else if keyword = "format" then argument.text.all fun name => hasFormat name value
  else true

/-- The names under `properties`. -/
def declared (keywords : List (String × Json)) : List String :=
  (keywords.lookup "properties").toList.flatMap fun properties => properties.members.map Prod.fst

mutual

def validate : Json → Json → Bool
  | .bool allowed, _ => allowed
  | .object keywords, value => keywordsHold (declared keywords) value keywords
  | _, _ => false

def keywordsHold (declared : List String) (value : Json) : List (String × Json) → Bool
  | [] => true
  | (keyword, argument) :: keywords =>
      (if keyword = "items" then (value.items.getD []).all fun item => validate argument item
        else if keyword = "properties" then
          match argument with
          | .object schemas => propertiesHold value schemas
          | _ => false
        else if keyword = "additionalProperties" then
          value.members.all fun member =>
            declared.contains member.1 || validate argument member.2
        else plainHolds keyword argument value) &&
      keywordsHold declared value keywords

def propertiesHold (value : Json) : List (String × Json) → Bool
  | [] => true
  | (name, schema) :: schemas =>
      (value.field name).all (fun member => validate schema member) &&
        propertiesHold value schemas

end

section Order

theorem same_scalar_object (constant : Json) (members : List (String × Json)) :
    sameScalar constant (.object members) = false := by
  cases constant <;> rfl

variable {first second : List (String × Json)} (permuted : first.Perm second)
  (distinct : (first.map Prod.fst).Nodup)
include permuted distinct

theorem field_perm (name : String) :
    (Json.object first).field name = (Json.object second).field name :=
  Dict.lookup_perm permuted distinct name

theorem plain_holds_perm (keyword : String) (argument : Json) :
    plainHolds keyword argument (.object first) = plainHolds keyword argument (.object second) := by
  have required : ∀ names,
      hasMembers names (.object first) = hasMembers names (.object second) := by
    intro names
    unfold hasMembers
    simp only [Dict.lookup_perm permuted distinct]
  unfold plainHolds
  simp only [same_scalar_object, required]
  rfl

theorem properties_hold_perm (schemas : List (String × Json)) :
    propertiesHold (.object first) schemas = propertiesHold (.object second) schemas := by
  induction schemas with
  | nil => rfl
  | cons schema schemas induction =>
      rw [propertiesHold, propertiesHold, field_perm permuted distinct, induction]

theorem keywords_hold_perm (names : List String) (keywords : List (String × Json)) :
    keywordsHold names (.object first) keywords = keywordsHold names (.object second) keywords := by
  induction keywords with
  | nil => rfl
  | cons keyword keywords induction =>
      obtain ⟨keyword, argument⟩ := keyword
      have additional : ((Json.object first).members.all fun member =>
          names.contains member.1 || validate argument member.2) =
          (Json.object second).members.all fun member =>
            names.contains member.1 || validate argument member.2 := permuted.all_eq
      have plain := plain_holds_perm permuted distinct keyword argument
      cases argument with
      | object schemas =>
          simp only [keywordsHold, induction, additional, plain,
            properties_hold_perm permuted distinct schemas]
          rfl
      | bool value =>
          simp only [keywordsHold, induction, additional, plain]
          rfl
      | string text =>
          simp only [keywordsHold, induction, additional, plain]
          rfl
      | array items =>
          simp only [keywordsHold, induction, additional, plain]
          rfl

/-- The members of an object may stand in any order. -/
theorem validate_perm (schema : Json) :
    validate schema (.object first) = validate schema (.object second) := by
  cases schema with
  | bool allowed => rfl
  | string text => rfl
  | array items => rfl
  | object keywords => exact keywords_hold_perm permuted distinct (declared keywords) keywords

end Order

/-- Sorted keys are as good as the keys in any other order. -/
theorem validate_sorted (schema : Json) {members : List (String × Json)}
    (distinct : (members.map Prod.fst).Nodup) :
    validate schema (Json.object members).sortKeys =
      validate schema (.object (members.map fun member => (member.1, member.2.sortKeys))) := by
  rw [← sort_members_map, sortKeys]
  apply validate_perm (List.perm_insertionSort keyOrder _)
  rw [((List.perm_insertionSort keyOrder _).map Prod.fst).nodup_iff, sort_members_keys]
  exact distinct

section Closed

/-- The keywords that say something about a value. -/
def assertions : List String :=
  ["type", "const", "enum", "required", "format", "items", "properties", "additionalProperties"]

/-- An annotation changes nothing. -/
theorem validate_annotated {keyword : String} (silent : keyword ∉ assertions) (argument : Json)
    (keywords : List (String × Json)) (value : Json) :
    validate (.object ((keyword, argument) :: keywords)) value =
      validate (.object keywords) value := by
  simp only [assertions, List.mem_cons, List.not_mem_nil, or_false, not_or] at silent
  obtain ⟨type, const, enum, required, format, items, properties, additional⟩ := silent
  have names : declared ((keyword, argument) :: keywords) = declared keywords := by
    have apart : ("properties" == keyword) = false := beq_eq_false_iff_ne.mpr (Ne.symm properties)
    rw [declared, List.lookup_cons, apart]
    rfl
  have plain : plainHolds keyword argument value = true := by
    rw [plainHolds, if_neg type, if_neg const, if_neg enum, if_neg required, if_neg format]
  rw [validate, validate, names]
  cases argument <;>
    simp only [keywordsHold, if_neg items, if_neg properties, if_neg additional, plain,
      Bool.true_and]

def typeSchema (name : String) : Json := .object [("type", .string name)]

def constSchema (text : String) : Json := .object [("const", .string text)]

def dateTimeSchema : Json :=
  .object [("type", .string "string"), ("format", .string "date-time")]

def strings (texts : List String) : Json := .array (texts.map .string)

def arraySchema (items : Json) : Json := .object [("type", .string "array"), ("items", items)]

/-- The keywords of a schema for objects with these members and no other ones. -/
def closedKeywords (required : List String) (schemas : List (String × Json)) :
    List (String × Json) :=
  [("type", .string "object"), ("required", strings required), ("properties", .object schemas),
    ("additionalProperties", .bool false)]

def closedSchema (required : List String) (schemas : List (String × Json)) : Json :=
  .object (closedKeywords required schemas)

/-- An object with the required members only. -/
theorem validate_closed {required : List String} {schemas members : List (String × Json)}
    (keyed : members.map Prod.fst = required)
    (known : ∀ name ∈ required, name ∈ schemas.map Prod.fst)
    (hold : propertiesHold (.object members) schemas = true) :
    validate (closedSchema required schemas) (.object members) = true := by
  have names : declared (closedKeywords required schemas) = schemas.map Prod.fst :=
    List.append_nil _
  have requiredHolds : hasMembers (required.map .string) (.object members) = true := by
    rw [hasMembers, List.all_map, List.all_eq_true]
    intro name member
    change (members.lookup name).isSome = true
    rw [Dict.lookup_isSome_iff, keyed]
    exact member
  have closed : (members.all fun member =>
      (declared (closedKeywords required schemas)).contains member.1 ||
        validate (.bool false) member.2) = true := by
    rw [names, List.all_eq_true]
    intro member inside
    have key : member.1 ∈ required := keyed ▸ List.mem_map.mpr ⟨member, inside, rfl⟩
    rw [List.contains_iff_mem.mpr (known member.1 key), Bool.true_or]
  change (true && (hasMembers (required.map .string) (.object members) &&
    (propertiesHold (.object members) schemas && ((members.all fun member =>
      (declared (closedKeywords required schemas)).contains member.1 ||
        validate (.bool false) member.2) && true)))) = true
  rw [requiredHolds, hold, closed]
  rfl

theorem validate_array {schema : Json} {items : List Json}
    (conform : ∀ item ∈ items, validate schema item.sortKeys = true) :
    validate (arraySchema schema) (Json.array items).sortKeys = true := by
  have all : ((items.map sortKeys).all fun item => validate schema item) = true := by
    rw [List.all_map, List.all_eq_true]
    exact conform
  rw [sortKeys, sort_items_map]
  change (true && (((items.map sortKeys).all fun item => validate schema item) && true)) = true
  rw [all]
  rfl

theorem validate_date_time {text : String} (moment : DateTime.isDateTime text.toList = true) :
    validate dateTimeSchema (.string text) = true := by
  have typed : plainHolds "type" (.string "string") (.string text) = true := rfl
  have formatted : plainHolds "format" (.string "date-time") (.string text) = true := by
    change ("date-time" != "date-time" || DateTime.isDateTime text.toList) = true
    rw [moment]
    rfl
  change (plainHolds "type" (.string "string") (.string text) &&
    (plainHolds "format" (.string "date-time") (.string text) && true)) = true
  rw [typed, formatted]
  rfl

end Closed

end Sigmascope.Library.Json
