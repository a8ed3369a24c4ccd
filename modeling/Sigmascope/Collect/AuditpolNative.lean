import Sigmascope.Collect.Windows
import Sigmascope.Evaluate.WindowsGates
import Sigmascope.Library.Dict

/-!
The native query of the audit policy. The answers of the operating system are a
record of the interface; the decoding of its buffer and the second attempt after
a denied access are the program's own.
-/

namespace Sigmascope

set_option autoImplicit false

open Sigmascope.Library Sigmascope.Library.PyText

structure Guid where
  data1 : UInt32
  data2 : UInt16
  data3 : UInt16
  data4 : Vector UInt8 8
deriving DecidableEq

/-- The digits of a number in hexadecimal, padded to a width. -/
def hexText (width value : Nat) : Text :=
  (List.range width).reverse.map fun place => hexDigit (value / 16 ^ place % 16)

/-- `str(uuid.UUID(bytes_le=raw))` for the bytes of the structure. -/
def Guid.uuidText (guid : Guid) : Text :=
  let bytes := guid.data4.toList.map fun byte => hexText 2 byte.toNat
  hexText 8 guid.data1.toNat ++ ['-'] ++ hexText 4 guid.data2.toNat ++ ['-'] ++
    hexText 4 guid.data3.toNat ++ ['-'] ++ (bytes.take 2).flatten ++ ['-'] ++
    (bytes.drop 2).flatten

/-- `GUID.as_string` -/
def Guid.asString (guid : Guid) : String :=
  "\x7b" ++ upperText (String.ofList guid.uuidText) ++ "\x7d"

structure AuditPolicyInformation where
  auditSubCategoryGuid : Guid
  auditingInformation : UInt32
deriving DecidableEq

structure OsError where
  /-- `winerror`, or else `errno`. -/
  code : Option Int
  text : String
deriving DecidableEq, Repr

def errorAccessDenied : Int := 5

/-- What the Windows libraries answer. `AuditQuerySystemPolicy` is asked for the GUIDs of
the given texts, before or after the privilege is enabled; the answer is its buffer. -/
structure AuditApi where
  libraries : Except OsError Unit
  auditQuerySystemPolicy : Bool → List String → Except OsError (List AuditPolicyInformation)
  enableSecurityPrivilege : Except OsError Unit

def policyEntry (entry : AuditPolicyInformation) : String × String :=
  (entry.auditSubCategoryGuid.asString, policyState entry.auditingInformation.toNat)

/-- The dictionary comprehension of `_query_once`. -/
def policyStates (buffer : List AuditPolicyInformation) : Dict String String :=
  Dict.empty.assignAll (buffer.map policyEntry)

def queryOnce (api : AuditApi) (privileged : Bool) (subcategoryGuids : List String) :
    Except OsError (Dict String String) :=
  (api.auditQuerySystemPolicy privileged subcategoryGuids).map policyStates

def querySystemPolicy (api : AuditApi) (subcategoryGuids : List String) :
    Except OsError (Dict String String) :=
  if subcategoryGuids = [] then .ok Dict.empty
  else
    api.libraries.bind fun _ =>
      match queryOnce api false subcategoryGuids with
      | .ok states => .ok states
      | .error error =>
          if error.code ≠ some errorAccessDenied then .error error
          else api.enableSecurityPrivilege.bind fun _ => queryOnce api true subcategoryGuids

def collectNativePolicy (api : AuditApi) (subcategoryGuids : List String) : NativeAuditPolicy :=
  match querySystemPolicy api subcategoryGuids with
  | .ok states => ⟨states.items, none⟩
  | .error error =>
      ⟨[], some ⟨"windows.audit_policy", error.text, "AuditQuerySystemPolicy"⟩⟩

/-- The interface hands over the buffer, at once or after the privilege is enabled. -/
structure AuditApi.Returns (api : AuditApi) (subcategoryGuids : List String)
    (buffer : List AuditPolicyInformation) : Prop where
  loaded : api.libraries = .ok ()
  answered : api.auditQuerySystemPolicy false subcategoryGuids = .ok buffer ∨
    (∃ denied, api.auditQuerySystemPolicy false subcategoryGuids = .error denied ∧
      denied.code = some errorAccessDenied) ∧
      api.enableSecurityPrivilege = .ok () ∧
      api.auditQuerySystemPolicy true subcategoryGuids = .ok buffer

theorem collect_native_policy_returns {api : AuditApi} {subcategoryGuids : List String}
    {buffer : List AuditPolicyInformation} (asked : subcategoryGuids ≠ [])
    (returns : api.Returns subcategoryGuids buffer) :
    collectNativePolicy api subcategoryGuids = ⟨(policyStates buffer).items, none⟩ := by
  have queried : querySystemPolicy api subcategoryGuids = .ok (policyStates buffer) := by
    rw [querySystemPolicy, if_neg asked, returns.loaded]
    rcases returns.answered with atOnce | ⟨⟨denied, refused, code⟩, enabled, after⟩
    · simp only [Except.bind, queryOnce, atOnce, Except.map]
    · simp only [Except.bind, queryOnce, refused, Except.map, code, ne_eq, not_true_eq_false,
        if_false, enabled, after]
  rw [collectNativePolicy, queried]

section Spelling

/-- The characters of `str(uuid)`. -/
def uuidAlphabet : Text := "0123456789abcdef-".toList

/-- The characters of a GUID in braces and upper case. -/
def guidAlphabet : Text := "0123456789ABCDEF-\x7b\x7d".toList

theorem guid_alphabet_upper {char : Char} (inside : char ∈ guidAlphabet) :
    upperChar char = [char] := by
  have checked : guidAlphabet.all (fun char => upperChar char == [char]) = true := by decide
  exact beq_iff_eq.mp (List.all_eq_true.mp checked char inside)

theorem uuid_char_raised {char raised : Char} (inside : char ∈ uuidAlphabet)
    (member : raised ∈ upperChar char) : raised ∈ guidAlphabet := by
  have checked : uuidAlphabet.all
      (fun char => (upperChar char).all guidAlphabet.contains) = true := by
    decide
  have raisedAll := List.all_eq_true.mp checked char inside
  exact List.contains_iff_mem.mp (List.all_eq_true.mp raisedAll raised member)

theorem hex_text_chars {width value : Nat} {char : Char} (member : char ∈ hexText width value) :
    char ∈ uuidAlphabet := by
  obtain ⟨place, _, rfl⟩ := List.mem_map.mp member
  have bound : value / 16 ^ place % 16 < 16 := Nat.mod_lt _ (by decide)
  have digits : ∀ digit < 16, hexDigit digit ∈ uuidAlphabet := by decide
  exact digits _ bound

theorem uuid_text_chars {guid : Guid} {char : Char} (member : char ∈ guid.uuidText) :
    char ∈ uuidAlphabet := by
  have bytes : ∀ part ∈ guid.data4.toList.map fun byte => hexText 2 byte.toNat,
      char ∈ part → char ∈ uuidAlphabet := by
    intro part listed inside
    obtain ⟨byte, _, rfl⟩ := List.mem_map.mp listed
    exact hex_text_chars inside
  have dashInside : '-' ∈ uuidAlphabet := by decide
  simp only [Guid.uuidText, List.mem_append, List.mem_singleton, List.mem_flatten] at member
  rcases member with ((((((((first | dash) | second) | dash) | third) | dash) |
    ⟨part, listed, inside⟩) | dash) | ⟨part, listed, inside⟩)
  · exact hex_text_chars first
  · exact dash ▸ dashInside
  · exact hex_text_chars second
  · exact dash ▸ dashInside
  · exact hex_text_chars third
  · exact dash ▸ dashInside
  · exact bytes part (List.mem_of_mem_take listed) inside
  · exact dash ▸ dashInside
  · exact bytes part (List.mem_of_mem_drop listed) inside

theorem as_string_chars {guid : Guid} {char : Char} (member : char ∈ guid.asString.toList) :
    char ∈ guidAlphabet := by
  simp only [Guid.asString, upperText, String.toList_append, String.toList_ofList,
    List.mem_append] at member
  rcases member with (opening | inside) | closing
  · rw [List.mem_singleton.mp opening]
    decide
  · obtain ⟨char, listed, raised⟩ := List.mem_flatMap.mp inside
    exact uuid_char_raised (uuid_text_chars listed) raised
  · rw [List.mem_singleton.mp closing]
    decide

theorem upper_eq_self {text : Text} (inside : ∀ char ∈ text, char ∈ guidAlphabet) :
    upper text = text := by
  induction text with
  | nil => rfl
  | cons char text induction =>
      have rest := induction fun other member => inside other (List.mem_cons_of_mem _ member)
      rw [upper, List.flatMap_cons, guid_alphabet_upper (inside char List.mem_cons_self), ← upper,
        rest, List.singleton_append]

/-- The spelling is in upper case already. -/
theorem upper_as_string (guid : Guid) : upperText guid.asString = guid.asString := by
  rw [upperText, upper_eq_self fun _ member => as_string_chars member, String.ofList_toList]

example : Guid.asString ⟨0x0CCE922B, 0x69AE, 0x11D9,
    #v[0xBE, 0xD3, 0x50, 0x50, 0x54, 0x50, 0x30, 0x30]⟩ =
      "\x7b0CCE922B-69AE-11D9-BED3-505054503030\x7d" := by decide

end Spelling

end Sigmascope
